import LiveConsole.Text.Quoted
import LiveConsole.Number.Digits
import LiveConsole.Number.Shortest

/-!
# Data

Values that settings, messages and errors carry. Every datum has a literal form, in which texts
are quoted, and a plain form, in which a text stands for itself. Both fail only on an integer of
more digits than a numeral may have.
-/

set_option autoImplicit false

namespace LiveConsole

inductive Datum where
  | null
  | flag (b : Bool)
  | int (n : Int)
  | float (x : Float)
  | text (t : Text)
  | octets (bs : List UInt8)
  | list (items : List Datum)
  | tuple (items : List Datum)
  | dict (entries : List (Datum × Datum))
deriving Inhabited

namespace Datum

instance : Coe Text Datum where
  coe := .text

/-- What kind of value a datum is, in words. -/
def kindName : Datum → String
  | .null => "NoneType"
  | .flag _ => "bool"
  | .int _ => "int"
  | .float _ => "float"
  | .text _ => "str"
  | .octets _ => "bytes"
  | .list _ => "list"
  | .tuple _ => "tuple"
  | .dict _ => "dict"

/-- A quantity that compares with every other number. -/
inductive Quantity where
  | int (n : Int)
  | float (x : Float)

namespace Quantity

def datum : Quantity → Datum
  | .int n => .int n
  | .float x => .float x

def equal : Quantity → Quantity → Bool
  | .int m, .int n => m == n
  | .float x, .float y => x == y
  | .int n, .float x => Binary64.compareInt x n == some .eq
  | .float x, .int n => Binary64.compareInt x n == some .eq

/-- The order of two quantities; none when one is no number at all. -/
def order : Quantity → Quantity → Option Ordering
  | .int m, .int n => some (compare m n)
  | .float x, .int n => Binary64.compareInt x n
  | .int m, .float y => (Binary64.compareInt y m).map Ordering.swap
  | .float x, .float y =>
    if x < y then some .lt else if y < x then some .gt else if x == y then some .eq else none

end Quantity

/-- Flags count as 0 and 1. -/
def quantity? : Datum → Option Quantity
  | .flag b => some (.int (if b then 1 else 0))
  | .int n => some (.int n)
  | .float x => some (.float x)
  | _ => none

/-- The number that a datum is; flags are none. -/
def number? : Datum → Option Quantity
  | .int n => some (.int n)
  | .float x => some (.float x)
  | _ => none

mutual

/-- Equality by value: numbers compare across their kinds, dictionaries without order. -/
def equal : Datum → Datum → Bool
  | .null, .null => true
  | .text s, .text t => s == t
  | .octets s, .octets t => s == t
  | .list s, .list t => equalItems s t
  | .tuple s, .tuple t => equalItems s t
  | .dict s, .dict t => s.length == t.length && equalEntries s t
  | a, b =>
    match a.quantity?, b.quantity? with
    | some x, some y => x.equal y
    | _, _ => false

def equalItems : List Datum → List Datum → Bool
  | [], [] => true
  | a :: s, b :: t => equal a b && equalItems s t
  | _, _ => false

/-- Whether every entry of the first list occurs in the second. -/
def equalEntries : List (Datum × Datum) → List (Datum × Datum) → Bool
  | [], _ => true
  | (k, v) :: rest, t => t.any (fun e => equal k e.1 && equal v e.2) && equalEntries rest t

end

mutual

/-- The literal form. -/
def literal : Datum → Except Digits.TooLong Text
  | .null => .ok "None"
  | .flag true => .ok "True"
  | .flag false => .ok "False"
  | .int n => Digits.write n
  | .float x => .ok (Shortest.write Shortest.layout x)
  | .text t => .ok t.quoted
  | .octets bs => .ok (Quoted.ofOctets bs)
  | .list items => do
    let inner ← literals items
    return "[" ++ Text.join ", " inner ++ "]"
  | .tuple items => do
    let inner ← literals items
    match inner with
    | [only] => return "(" ++ only ++ ",)"
    | inner => return "(" ++ Text.join ", " inner ++ ")"
  | .dict entries => do
    let inner ← literalEntries entries
    return "\x7b" ++ Text.join ", " inner ++ "\x7d"

def literals : List Datum → Except Digits.TooLong (List Text)
  | [] => .ok []
  | d :: rest => do
    let t ← literal d
    return t :: (← literals rest)

def literalEntries : List (Datum × Datum) → Except Digits.TooLong (List Text)
  | [] => .ok []
  | (k, v) :: rest => do
    let key ← literal k
    let value ← literal v
    return (key ++ ": " ++ value) :: (← literalEntries rest)

end

/-- The plain form. -/
def plain : Datum → Except Digits.TooLong Text
  | .text t => .ok t
  | d => d.literal

def isFalsy : Datum → Bool
  | .null => true
  | .flag b => !b
  | .int n => n == 0
  | .float x => x == 0.0
  | .text t => t.isEmpty
  | .octets bs => bs.isEmpty
  | .list items => items.isEmpty
  | .tuple items => items.isEmpty
  | .dict entries => entries.isEmpty

/-- Sets a key of an ordered dictionary: a key already there keeps its place. -/
def assign (key value : Datum) : List (Datum × Datum) → List (Datum × Datum)
  | [] => [(key, value)]
  | (k, v) :: rest => if equal k key then (k, value) :: rest else (k, v) :: assign key value rest

/-- The dictionary of a list of pairs: equal keys keep the first place and the last value. -/
def ofPairs (pairs : List (Datum × Datum)) : List (Datum × Datum) :=
  pairs.foldl (fun entries (k, v) => assign k v entries) []

/-- Looks up a text key. -/
def field? {V : Type} (name : Text) : List (Datum × V) → Option V
  | [] => none
  | (.text k, v) :: rest => if k = name then some v else field? name rest
  | _ :: rest => field? name rest

end Datum

end LiveConsole
