import LiveConsole.Number.Numeral
import LiveConsole.Object.Arguments
import LiveConsole.Object.Operation
import LiveConsole.Text.DecimalDigit

/-!
# Conversions

What calling a built-in kind makes of its arguments.
-/

set_option autoImplicit false

namespace LiveConsole.Conversion

/-- The characters of a text, digits of all scripts in one form. A lone half counts as a character
that stands in no numeral. -/
def charsOf (t : Text) : List Char :=
  t.map fun
    | .scalar c => DecimalDigit.plain c
    | .lone _ => '?'

def notInteger (radix : Nat) (shown : Text) : Run Int :=
  Run.raiseValue ("invalid literal for int() with base " ++ Text.ofNat radix ++ ": " ++ shown)

def digitValue (c : Char) : Nat :=
  if c.isDigit then c.toNat - '0'.toNat
  else if c.isAlpha then c.toLower.toNat - 'a'.toNat + 10
  else 99

/-- The radix of a mark such as that of 0x1F. -/
def radixOfMark? (c : Char) : Option Nat :=
  match c.toLower with
  | 'x' => some 16
  | 'o' => some 8
  | 'b' => some 2
  | _ => none

/-- The radix of a numeral and its digits without a mark. For the radix zero the mark decides, and
digits without one are decimal and do not start with a zero. -/
def withoutMark? (radix : Nat) (cs : List Char) : Option (Nat × List Char) :=
  let marked := match cs with
    | '0' :: c :: rest =>
      (radixOfMark? c).bind fun r =>
        let digits := if rest.head? = some '_' then rest.tail else rest
        if radix = 0 ∨ radix = r then some (r, digits) else none
    | _ => none
  if radix ≠ 0 then some (marked.getD (radix, cs))
  else
    let plain := cs.head? ≠ some '0' || cs.all fun c => c = '0' ∨ c = '_'
    marked.or (if plain then some (10, cs) else none)

/-- Whether numerals of any length can be read in a radix. -/
def isUnlimited (radix : Nat) : Bool :=
  [2, 4, 8, 16, 32].contains radix

/-- Reads digits of any radix. -/
def inRadix (radix : Nat) (cs : List Char) : Except Numeral.IntRefusal Int :=
  let (negative, body) := Numeral.takeSign (Numeral.trim cs)
  match withoutMark? radix body with
  | none => .error .malformed
  | some (radix, body) =>
    match Numeral.ungroup? Char.isAlphanum body with
    | none => .error .malformed
    | some digits =>
      if digits.isEmpty || digits.any fun c => digitValue c ≥ radix then .error .malformed
      else if digits.length > digitLimit && !isUnlimited radix then .error (.tooLong digits.length)
      else
        let n : Int := digits.foldl (fun n c => n * radix + digitValue c) (0 : Nat)
        .ok (if negative then -n else n)

def intOfText (radix : Nat) (t : Text) : Run Int := do
  match inRadix radix (charsOf t) with
  | .ok n => return n
  | .error .malformed => notInteger radix t.quoted
  | .error (.tooLong count) => Run.raiseValue (Digits.unreadable count)

def toInt (v : Value) : Run Int := do
  match v with
  | .text t => intOfText 10 t
  | v =>
    match v.quantity? with
    | some (.int n) => return n
    | some (.float x) =>
      match Binary64.truncate? x with
      | some n => return n
      | none =>
        if Binary64.isNaN x then Run.raiseValue "cannot convert float NaN to integer"
        else Run.raise .overflowError "cannot convert float infinity to integer"
    | none =>
      Run.raiseType ("int() argument must be a string, a bytes-like object or a real number, not '"
        ++ (← Run.typeName v) ++ "'")

/-- An integer; a second argument gives the radix of a text. -/
def toInteger (args : List Value) (named : Names) : Run Int := do
  Arguments.counted "int" 0 2 args
  Arguments.allow "int" ["base"] named
  match args, (args[1]?).or (Names.find? "base" named) with
  | [], none => return 0
  | [], some _ => Run.raiseType "int() missing string argument"
  | v :: _, none => toInt v
  | v :: _, some radix =>
    let radix ← Arguments.index radix
    if radix ≠ 0 ∧ (radix < 2 ∨ 36 < radix) then
      Run.raiseValue "int() base must be >= 2 and <= 36, or 0"
    else
      match v with
      | .text t => intOfText radix.toNat t
      | _ => Run.raiseType "int() can't convert non-string with explicit base"

def int (args : List Value) (named : Names) : Run Value :=
  return .int (← toInteger args named)

def float (args : List Value) : Run Value := do
  Arguments.between "float" 0 1 args
  match args with
  | [] => return .float 0.0
  | .text t :: _ =>
    match Numeral.float? (charsOf t) with
    | some x => return .float x
    | none => Run.raiseValue ("could not convert string to float: " ++ t.quoted)
  | v :: _ =>
    match v.quantity? with
    | some q => return .float (← Run.ofExcept (Arithmetic.asFloat q))
    | none =>
      Run.raiseType ("float() argument must be a string or a real number, not '"
        ++ (← Run.typeName v) ++ "'")

def text (i : Interpreter) (args : List Value) (named : Names) : Run Value := do
  Arguments.counted "str" 0 3 args
  Arguments.allow "str" ["object", "encoding", "errors"] named
  match (args.head?).or (Names.find? "object" named) with
  | none => return .text []
  | some v => return .text (← i.plain v)

def flag (args : List Value) : Run Value := do
  Arguments.between "bool" 0 1 args
  match args with
  | [] => return .flag false
  | v :: _ => return .flag (← Operation.isTrue v)

def members (kind : Text) (args : List Value) : Run (List Value) := do
  Arguments.between kind 0 1 args
  match args with
  | [] => return []
  | v :: _ => Run.elements v

/-- A range; its numbers must be integers and its step not zero. -/
def range (args : List Value) : Run Value := do
  Arguments.between "range" 1 3 args
  match args with
  | [stop] => return .range 0 (← Arguments.index stop) 1
  | start :: stop :: more =>
    let start ← Arguments.index start
    let stop ← Arguments.index stop
    match more with
    | [] => return .range start stop 1
    | step :: _ =>
      let step ← Arguments.index step
      if step = 0 then Run.raiseValue "range() arg 3 must not be zero"
      else return .range start stop step
  | [] => return .none

def slice (args : List Value) : Run Value := do
  Arguments.between "slice" 1 3 args
  match args with
  | [stop] => return .slice .none stop .none
  | start :: stop :: more => return .slice start stop (more.headD .none)
  | [] => return .none

/-- Puts pairs into a dictionary; `count` of them were put before. -/
def putPairs (count : Nat) (entries : Entries) : List Value → Run Entries
  | [] => return entries
  | pair :: rest => do
    let parts ← Run.members (fun _ => "cannot convert dictionary update sequence element #"
      ++ Text.ofNat count ++ " to a sequence") pair
    match parts with
    | [key, v] =>
      Run.requireKey key
      putPairs (count + 1) (Entries.put key v entries) rest
    | parts =>
      Run.raiseValue ("dictionary update sequence element #" ++ Text.ofNat count ++ " has length "
        ++ Text.ofNat parts.length ++ "; 2 is required")

/-- Entries laid over others: those of a dictionary or of a sequence of pairs. -/
def layEntries (entries : Entries) (v : Value) : Run Entries := do
  match (← Run.machine).dict? v with
  | some more => return Operation.merged entries more
  | none => putPairs 0 entries (← Run.elements v)

def ofNames (names : Names) : Entries :=
  names.map fun (k, v) => (.text k, v)

def entries (function : Text) (base : Entries) (args : List Value) (named : Names) :
    Run Entries := do
  Arguments.between function 0 1 args
  let base ← match args with
    | [] => pure base
    | v :: _ => layEntries base v
  return Operation.merged base (ofNames named)

def octets (args : List Value) : Run Value := do
  match args with
  | [] => return .octets []
  | .octets bs :: _ => return .octets bs
  | .text _ :: _ => Run.raiseType "string argument without an encoding"
  | v :: _ =>
    match v.int? with
    | some n =>
      if n < 0 then Run.raiseValue "negative count"
      else return .octets (List.replicate n.toNat 0)
    | none =>
      let ns ← (← Run.elements v).mapM Arguments.index
      if ns.all fun n => 0 ≤ n && n < 256 then
        return .octets (ns.map fun n => UInt8.ofNat n.toNat)
      else Run.raiseValue "bytes must be in range(0, 256)"

end LiveConsole.Conversion
