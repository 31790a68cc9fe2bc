import LiveConsole.Object.Arguments
import LiveConsole.Object.Operation

/-!
# Sorting

Stable sorting of values by a key. The run at the beginning that is in order already, or strictly
in reverse order, is taken as it is; the others are inserted one by one by halving.
-/

set_option autoImplicit false

namespace LiveConsole.Sorting

/-- A value with the key by which it is placed. -/
structure Item where
  key : Value
  value : Value
deriving Inhabited

def less (a b : Item) : Run Bool :=
  Comparison.less a.key b.key

/-- The place of an item among sorted ones, after those that are equal to it. -/
def place (x : Item) (sorted : Array Item) : (bound low high : Nat) → Run Nat
  | 0, low, _ => return low
  | bound + 1, low, high =>
    if low < high then do
      let middle := (low + high) / 2
      if ← less x (sorted.getD middle default) then place x sorted bound low middle
      else place x sorted bound (middle + 1) high
    else return low

def insertAll (sorted : Array Item) : List Item → Run (Array Item)
  | [] => return sorted
  | x :: rest => do
    let p ← place x sorted (sorted.size + 1) 0 sorted.size
    insertAll (sorted.insertIdx! p x) rest

/-- Extends the run at the beginning, kept with the latest first, while each item is less than the
one before it, or while none is. -/
def extend (falling : Bool) (run : List Item) : List Item → Run (List Item × List Item)
  | [] => return (run, [])
  | x :: rest => do
    match run with
    | [] => extend falling [x] rest
    | last :: _ =>
      if (← less x last) == falling then extend falling (x :: run) rest
      else return (run, x :: rest)

def items (xs : List Item) : Run (Array Item) := do
  match xs with
  | x :: y :: rest =>
    let falling ← less y x
    let (run, rest) ← extend falling [y, x] rest
    insertAll (if falling then run else run.reverse).toArray rest
  | xs => return xs.toArray

/-- Sorts values by their keys, from the greatest down if `reverse` holds; equal ones keep their
order. -/
def sort (reverse : Bool) (keyed : List Item) : Run (Array Value) := do
  let sorted ← items (if reverse then keyed.reverse else keyed)
  let values := sorted.map Item.value
  return if reverse then values.reverse else values

/-- Pairs values with their keys. -/
def keyed (i : Interpreter) (key : Option Value) (found : List Item) : List Value → Run (List Item)
  | [] => return found.reverse
  | v :: rest => do
    let k ← match key with
      | none | some .none => pure v
      | some f => i.call f [v] []
    keyed i key (⟨k, v⟩ :: found) rest

/-- Sorts as the arguments by name ask for. -/
def sortNamed (i : Interpreter) (named : Names) (vs : List Value) : Run (Array Value) := do
  Arguments.allow "sort" ["key", "reverse"] named
  let reverse ← match Names.find? "reverse" named with
    | none => pure false
    | some v => Operation.isTrue v
  sort reverse (← keyed i (Names.find? "key" named) [] vs)

end LiveConsole.Sorting
