import LiveConsole.Text.Search
import LiveConsole.Object.Comparison

/-!
# Iteration

Going through the members of a value. A list is read as it stands at each step, so that it may
grow on the way; a dictionary must keep its size.
-/

set_option autoImplicit false

namespace LiveConsole

/-- Where an iteration stands. -/
inductive Cursor where
  | items (rest : List Value)
  | list (a : Address) (next : Nat)
  | numbers (next step : Int) (left : Nat)
  | dict (part : DictPart) (a : Address) (next size : Nat)

namespace Cursor

/-- Where the iteration over a value begins, if it has members at all. -/
def of? (m : Machine) (v : Value) : Option Cursor :=
  match v with
  | .tuple vs => some (.items vs)
  | .text t => some (.items (t.map fun c => .text [c]))
  | .octets bs => some (.items (bs.map fun b => .int b.toNat))
  | .range start stop step => some (.numbers start step (Value.rangeLength start stop step))
  | .view part a => some (.dict part a 0 ((m.dict? (.ref a)).getD []).length)
  | .ref a =>
    match m.cell? a with
    | some (.list _) => some (.list a 0)
    | some (.dict entries) => some (.dict .keys a 0 entries.length)
    | _ => none
  | _ => none

/-- What a view shows of an entry. -/
def shown (part : DictPart) (entry : Value × Value) : Value :=
  match part with
  | .keys => entry.1
  | .values => entry.2
  | .items => .tuple [entry.1, entry.2]

/-- The next member. -/
def next? : Cursor → Run (Option (Value × Cursor))
  | .items [] => return none
  | .items (v :: rest) => return some (v, .items rest)
  | .list a i => do
    let items := ((← Run.machine).list? (.ref a)).getD #[]
    return items[i]?.map fun v => (v, .list a (i + 1))
  | .numbers _ _ 0 => return none
  | .numbers n step (left + 1) => return some (.int n, .numbers (n + step) step left)
  | .dict part a i size => do
    let entries := ((← Run.machine).dict? (.ref a)).getD []
    if entries.length ≠ size then
      Run.raise .runtimeError "dictionary changed size during iteration"
    else return entries[i]?.map fun e => (shown part e, .dict part a (i + 1) size)

/-- All members that are left. -/
def rest (m : Machine) : Cursor → List Value
  | .items vs => vs
  | .list a i => (((m.list? (.ref a)).getD #[]).extract i).toList
  | .numbers n step left => (List.range left).map fun (i : Nat) => .int (n + step * i)
  | .dict part a i _ => (List.drop i ((m.dict? (.ref a)).getD [])).map (shown part)

end Cursor

namespace Run

/-- The cursor of a value; `refusal` says what is wrong with one without members. -/
def cursor (refusal : Text → Text) (v : Value) : Run Cursor := do
  let m ← machine
  match Cursor.of? m v with
  | some c => return c
  | none => raiseType (refusal (m.typeName v))

def notIterable (type : Text) : Text :=
  "'" ++ type ++ "' object is not iterable"

def members (refusal : Text → Text) (v : Value) : Run (List Value) := do
  let c ← cursor refusal v
  return c.rest (← machine)

def elements (v : Value) : Run (List Value) :=
  members notIterable v

/-- Whether a value is among the members of another. -/
def isMember (x container : Value) : Run Bool := do
  let m ← machine
  match container with
  | .text t =>
    match x with
    | .text part => return Search.occurs part t
    | _ =>
      raiseType ("'in <string>' requires string as left operand, not " ++ m.typeName x)
  | .octets bs =>
    match x with
    | .octets part => return Search.occurs part bs
    | x =>
      match x.int? with
      | some n =>
        if 0 ≤ n ∧ n < 256 then return bs.contains (UInt8.ofNat n.toNat)
        else raiseValue "byte must be in range(0, 256)"
      | none => raiseType ("a bytes-like object is required, not '" ++ m.typeName x ++ "'")
  | .range start stop step =>
    match x.int? with
    | some n =>
      if step > 0 then return start ≤ n && n < stop && (n - start) % step == 0
      else return stop < n && n ≤ start && (start - n) % -step == 0
    | none => Comparison.contains x (← elements container)
  | container =>
    match m.dict? container with
    | some entries => do
      requireKey x
      return (Entries.find? x entries).isSome
    | none =>
      let vs ← members (fun type => "argument of type '" ++ type ++ "' is not iterable") container
      Comparison.contains x vs

end Run

end LiveConsole
