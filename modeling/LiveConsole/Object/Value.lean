import LiveConsole.Object.Kind
import LiveConsole.Script.Tree
import LiveConsole.Datum

/-!
# Values of scripts

Values without identity stand for themselves; lists, dictionaries, functions, classes and their
instances are references into a store.
-/

set_option autoImplicit false

namespace LiveConsole

inductive Builtin where
  | abs
  | all
  | any
  | callable
  | chr
  | exit
  | getField
  | hasField
  | importModule
  | isInstance
  | isRunning
  | isSubclass
  | len
  | makeSettings
  | max
  | mergeSettings
  | min
  | ord
  | print
  | repr
  | setField
  | sorted
  | startServer
  | stopServer
  | sum
deriving DecidableEq

namespace Builtin

def named : List Builtin :=
  [abs, all, any, callable, chr, getField, hasField, importModule, isInstance, isSubclass, len, max,
    min, ord, print, repr, setField, sorted, sum]

def name : Builtin → String
  | abs => "abs"
  | all => "all"
  | any => "any"
  | callable => "callable"
  | chr => "chr"
  | exit => "exit"
  | getField => "getattr"
  | hasField => "hasattr"
  | importModule => "__import__"
  | isInstance => "isinstance"
  | isRunning => "is_running"
  | isSubclass => "issubclass"
  | len => "len"
  | makeSettings => "make_config"
  | max => "max"
  | mergeSettings => "merged"
  | min => "min"
  | ord => "ord"
  | print => "print"
  | repr => "repr"
  | setField => "setattr"
  | sorted => "sorted"
  | startServer => "start"
  | stopServer => "stop"
  | sum => "sum"

end Builtin

inductive TextMethod where
  | count
  | endsWith
  | find
  | index
  | join
  | lower
  | lstrip
  | replace
  | rfind
  | rstrip
  | split
  | startsWith
  | strip
  | upper
deriving DecidableEq

namespace TextMethod

def all : List TextMethod :=
  [count, endsWith, find, index, join, lower, lstrip, replace, rfind, rstrip, split, startsWith,
    strip, upper]

def name : TextMethod → String
  | count => "count"
  | endsWith => "endswith"
  | find => "find"
  | index => "index"
  | join => "join"
  | lower => "lower"
  | lstrip => "lstrip"
  | replace => "replace"
  | rfind => "rfind"
  | rstrip => "rstrip"
  | split => "split"
  | startsWith => "startswith"
  | strip => "strip"
  | upper => "upper"

end TextMethod

inductive ListMethod where
  | append
  | clear
  | copy
  | count
  | extend
  | index
  | insert
  | pop
  | remove
  | reverse
  | sort
deriving DecidableEq

namespace ListMethod

def all : List ListMethod :=
  [append, clear, copy, count, extend, index, insert, pop, remove, reverse, sort]

def name : ListMethod → String
  | append => "append"
  | clear => "clear"
  | copy => "copy"
  | count => "count"
  | extend => "extend"
  | index => "index"
  | insert => "insert"
  | pop => "pop"
  | remove => "remove"
  | reverse => "reverse"
  | sort => "sort"

end ListMethod

inductive DictMethod where
  | clear
  | copy
  | get
  | items
  | keys
  | pop
  | setDefault
  | update
  | values
deriving DecidableEq

namespace DictMethod

def all : List DictMethod := [clear, copy, get, items, keys, pop, setDefault, update, values]

def name : DictMethod → String
  | clear => "clear"
  | copy => "copy"
  | get => "get"
  | items => "items"
  | keys => "keys"
  | pop => "pop"
  | setDefault => "setdefault"
  | update => "update"
  | values => "values"

end DictMethod

/-- Methods of tuples and of ranges. -/
inductive SequenceMethod where
  | count
  | index
deriving DecidableEq

namespace SequenceMethod

def all : List SequenceMethod := [count, index]

def name : SequenceMethod → String
  | count => "count"
  | index => "index"

end SequenceMethod

inductive Method where
  | text (m : TextMethod)
  | list (m : ListMethod)
  | dict (m : DictMethod)
  | tuple (m : SequenceMethod)
deriving DecidableEq

namespace Method

def name : Method → String
  | text m => m.name
  | list m => m.name
  | dict m => m.name
  | tuple m => m.name

/-- The kind of receiver. -/
def kind : Method → Kind
  | text _ => .text
  | list _ => .list
  | dict _ => .dict
  | tuple _ => .tuple

def find? (kind : Kind) (id : Text) : Option Method :=
  let named : String → Bool := fun s => Text.ofString s = id
  match kind with
  | .text => (TextMethod.all.find? (named ·.name)).map text
  | .list => (ListMethod.all.find? (named ·.name)).map list
  | .dict => (DictMethod.all.find? (named ·.name)).map dict
  | .tuple => (SequenceMethod.all.find? (named ·.name)).map tuple
  | _ => none

end Method

/-- What a view of a dictionary shows. -/
inductive DictPart where
  | keys
  | values
  | items
deriving DecidableEq

def DictPart.kind : DictPart → Kind
  | keys => .keys
  | values => .values
  | items => .items

/-- Modules that scripts can reach; the console is one of them. -/
inductive Module where
  | builtins
  | console
  | sockets
  | system
  | transport
deriving DecidableEq

def Module.name : Module → String
  | builtins => "builtins"
  | console => "hostrepl"
  | sockets => "socket"
  | system => "sys"
  | transport => "hostrepl.transport"

abbrev Address := Nat

/-- A value. An integer of a class of its own also has an address, that of its fields. -/
inductive Value where
  | none
  | ellipsis
  | notImplemented
  | flag (b : Bool)
  | int (n : Int)
  | float (x : Float)
  | text (t : Text)
  | octets (bs : List UInt8)
  | tuple (items : List Value)
  | range (start stop step : Int)
  | slice (lower upper step : Value)
  | kind (k : Kind)
  | builtin (f : Builtin)
  | method (m : Method) (receiver : Value)
  | descriptor (m : Method)
  | bound (function receiver : Value)
  | view (part : DictPart) (dict : Address)
  | module (m : Module)
  | number (a : Address) (n : Int)
  | ref (a : Address)
deriving Inhabited

namespace Value

open Datum (Quantity)

/-- The number that a value counts as; flags count as 0 and 1. -/
def quantity? : Value → Option Quantity
  | flag b => some (.int (if b then 1 else 0))
  | int n | number _ n => some (.int n)
  | float x => some (.float x)
  | _ => Option.none

/-- The integer that a value counts as. -/
def int? : Value → Option Int
  | flag b => some (if b then 1 else 0)
  | int n | number _ n => some n
  | _ => Option.none

/-- The datum that a value is; one that is none counts as nothing. -/
def datum : Value → Datum
  | flag b => .flag b
  | int n => .int n
  | float x => .float x
  | text t => .text t
  | octets bs => .octets bs
  | _ => .null

def ofQuantity : Quantity → Value
  | .int n => int n
  | .float x => float x

mutual

/-- Whether two values are one object. -/
def same : Value → Value → Bool
  | none, none | ellipsis, ellipsis | notImplemented, notImplemented => true
  | flag a, flag b => a == b
  | int m, int n => m == n
  | float x, float y => x.toBits == y.toBits
  | text s, text t => s == t
  | octets s, octets t => s == t
  | tuple s, tuple t => sameItems s t
  | range a b c, range d e f => a == d && b == e && c == f
  | slice a b c, slice d e f => same a d && same b e && same c f
  | kind j, kind k => j = k
  | builtin f, builtin g => f = g
  | method m r, method n s => m = n && same r s
  | descriptor m, descriptor n => m = n
  | bound f r, bound g s => same f g && same r s
  | view p d, view q e => p = q && d == e
  | module m, module n => m = n
  | number a _, number b _ => a == b
  | ref a, ref b => a == b
  | _, _ => false

def sameItems : List Value → List Value → Bool
  | [], [] => true
  | a :: s, b :: t => same a b && sameItems s t
  | _, _ => false

end

/-- How many numbers a range has. -/
def rangeLength (start stop step : Int) : Nat :=
  if step > 0 then ((stop - start + step - 1) / step).toNat
  else if step < 0 then ((start - stop - step - 1) / -step).toNat
  else 0

/-- Ranges are equal when they have the same numbers. -/
def equalRanges (a b c d e f : Int) : Bool :=
  let n := rangeLength a b c
  n == rangeLength d e f && (n == 0 || a == d && (n == 1 || c == f))

mutual

/-- Equality of keys. What has an identity equals only itself. -/
def equalKeys : Value → Value → Bool
  | tuple s, tuple t => equalKeysEach s t
  | range a b c, range d e f => equalRanges a b c d e f
  | a, b =>
    same a b || match a.quantity?, b.quantity? with
      | some x, some y => x.equal y
      | _, _ => false

def equalKeysEach : List Value → List Value → Bool
  | [], [] => true
  | a :: s, b :: t => equalKeys a b && equalKeysEach s t
  | _, _ => false

end

end Value

end LiveConsole
