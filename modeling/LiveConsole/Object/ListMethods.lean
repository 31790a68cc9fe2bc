import LiveConsole.Object.Conversion
import LiveConsole.Object.Sorting

/-!
# Methods of lists and tuples
-/

set_option autoImplicit false

namespace LiveConsole

namespace ListMethod

def label (m : ListMethod) : Text :=
  "list." ++ (m.name : Text)

/-- The place of the first member equal to a value, `passed` members being before. -/
def position? (v : Value) (passed : Nat) : List Value → Run (Option Nat)
  | [] => return none
  | w :: rest => do
    if ← Comparison.matching w v then return some passed else position? v (passed + 1) rest

def occurrences (v : Value) (found : Nat) : List Value → Run Nat
  | [] => return found
  | w :: rest => do
    occurrences v (if ← Comparison.matching w v then found + 1 else found) rest

/-- Where a search begins and ends. -/
def clamp (length : Nat) (n : Int) : Nat :=
  (min (length : Int) (max 0 (if n < 0 then n + length else n))).toNat

/-- Looks for a value between optional bounds. -/
def search (items : List Value) (args : List Value) : Run (Option Nat) := do
  Arguments.between "index" 1 3 args
  let bound (v : Option Value) (other : Nat) : Run Nat := do
    match v with
    | none => return other
    | some v => return clamp items.length (← Arguments.index v)
  let start ← bound args[1]? 0
  let stop ← bound args[2]? items.length
  position? (args.headD .none) start ((items.take stop).drop start)

def popped (a : Address) (items : Array Value) (args : List Value) : Run Value := do
  Arguments.between "pop" 0 1 args
  let n ← match args with
    | [] => pure (-1)
    | v :: _ => Arguments.index v
  if items.isEmpty then Run.raise .indexError "pop from empty list"
  else
    match Indexing.place? items.size n with
    | none => Run.raise .indexError "pop index out of range"
    | some p =>
      Run.store a (.list (items.eraseIdxIfInBounds p))
      return items.getD p .none

def inserted (a : Address) (items : Array Value) (args : List Value) : Run Value := do
  Arguments.between "insert" 2 2 args
  let n ← Arguments.index (args.getD 0 .none)
  let p := clamp items.size n
  let new := items.extract 0 p ++ #[args.getD 1 .none] ++ items.extract p items.size
  Run.store a (.list new)
  return .none

def removed (a : Address) (items : Array Value) (v : Value) : Run Value := do
  match ← position? v 0 items.toList with
  | none => Run.raiseValue "list.remove(x): x not in list"
  | some p =>
    Run.store a (.list (items.eraseIdxIfInBounds p))
    return .none

def apply (i : Interpreter) (m : ListMethod) (a : Address) (args : List Value) (named : Names) :
    Run Value := do
  if m ≠ .sort then Arguments.unnamed m.label named
  let items := ((← Run.machine).list? (.ref a)).getD #[]
  match m with
  | .append =>
    let v ← Arguments.one m.label args
    Run.store a (.list (items.push v))
    return .none
  | .clear =>
    Arguments.nothing m.label args
    Run.store a (.list #[])
    return .none
  | .copy =>
    Arguments.nothing m.label args
    Run.newList items
  | .reverse =>
    Arguments.nothing m.label args
    Run.store a (.list items.reverse)
    return .none
  | .count => return .int (← occurrences (← Arguments.one m.label args) 0 items.toList)
  | .extend =>
    let more ← Run.elements (← Arguments.one m.label args)
    Run.store a (.list (items ++ more.toArray))
    return .none
  | .index =>
    match ← search items.toList args with
    | some n => return .int n
    | none =>
      Run.raiseValue ((← i.literal (args.headD .none)) ++ " is not in list")
  | .insert => inserted a items args
  | .pop => popped a items args
  | .remove => removed a items (← Arguments.one m.label args)
  | .sort =>
    if !args.isEmpty then Run.raiseType "sort() takes no positional arguments"
    Run.store a (.list (← Sorting.sortNamed i named items.toList))
    return .none

end ListMethod

namespace SequenceMethod

def apply (m : SequenceMethod) (items : List Value) (args : List Value) (named : Names) :
    Run Value := do
  let label : Text := "tuple." ++ (m.name : Text)
  Arguments.unnamed label named
  match m with
  | .count => return .int (← ListMethod.occurrences (← Arguments.one label args) 0 items)
  | .index =>
    match ← ListMethod.search items args with
    | some n => return .int n
    | none => Run.raiseValue "tuple.index(x): x not in tuple"

end SequenceMethod

end LiveConsole
