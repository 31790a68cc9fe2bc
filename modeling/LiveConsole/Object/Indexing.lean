import LiveConsole.Object.Iteration

/-!
# Indexing

Reading, replacing and deleting members by index, slice or key. A negative index counts from the
end; a slice leaves out what lies beyond the ends.
-/

set_option autoImplicit false

namespace LiveConsole.Indexing

/-- The place of an index in a sequence. -/
def place? (length : Nat) (n : Int) : Option Nat :=
  let n := if n < 0 then n + length else n
  if 0 ≤ n ∧ n < length then some n.toNat else none

/-- A bound of a slice, kept between the ends; `low` and `high` are where it may lie. -/
def bound (length : Nat) (low high : Int) (n : Int) : Int :=
  let n := if n < 0 then n + length else n
  max low (min high n)

/-- Start, stop and step of a slice of a sequence. -/
structure Span where
  start : Int
  stop : Int
  step : Int

def span (length : Nat) (lower upper : Option Int) (step : Int) : Span :=
  let (low, high) : Int × Int := if step < 0 then (-1, length - 1) else (0, length)
  let first := match lower with
    | some n => bound length low high n
    | none => if step < 0 then high else low
  let last := match upper with
    | some n => bound length low high n
    | none => if step < 0 then low else high
  ⟨first, last, step⟩

def Span.places (s : Span) : List Nat :=
  (List.range (Value.rangeLength s.start s.stop s.step)).map fun (i : Nat) =>
    (s.start + s.step * i).toNat

def sliceBound? (v : Value) : Run (Option Int) := do
  match v with
  | .none => return none
  | v =>
    match v.int? with
    | some n => return some n
    | none =>
      Run.raiseType "slice indices must be integers or None or have an __index__ method"

def spanOf (length : Nat) (lower upper step : Value) : Run Span := do
  let step := (← sliceBound? step).getD 1
  if step = 0 then Run.raiseValue "slice step cannot be zero"
  else
    let lower ← sliceBound? lower
    let upper ← sliceBound? upper
    return span length lower upper step

/-- What sequences say of a wrong index. -/
structure Wording where
  beyond : String
  notInteger : String
  quotesType : Bool

def ofText : Wording := ⟨"string index out of range", "string indices must be integers", true⟩

def ofTuple : Wording :=
  ⟨"tuple index out of range", "tuple indices must be integers or slices", false⟩

def ofList : Wording :=
  ⟨"list index out of range", "list indices must be integers or slices", false⟩

def ofListTarget : Wording := { ofList with beyond := "list assignment index out of range" }

def ofRange : Wording :=
  ⟨"range object index out of range", "range indices must be integers or slices", false⟩

def ofOctets : Wording := ⟨"index out of range", "byte indices must be integers or slices", false⟩

/-- The greatest index that fits into a machine word. -/
def indexLimit : Int := twoTo 63

def placeOf (w : Wording) (length : Nat) (index : Value) : Run Nat := do
  match index.int? with
  | none =>
    let type ← Run.typeName index
    Run.raiseType ((w.notInteger : Text) ++ ", not " ++
      if w.quotesType then "'" ++ type ++ "'" else type)
  | some n =>
    if n < -indexLimit ∨ indexLimit ≤ n then
      Run.raise .indexError "cannot fit 'int' into an index-sized integer"
    else
      match place? length n with
      | some p => return p
      | none => Run.raise .indexError w.beyond

variable {α : Type} [Inhabited α]

def choose (items : Array α) (places : List Nat) : List α :=
  places.map fun p => items.getD p default

/-- A member, or the sequence of the members that a slice chooses. -/
def select (w : Wording) (items : Array α) (one : α → Run Value) (many : List α → Run Value)
    (index : Value) : Run Value := do
  match index with
  | .slice lower upper step =>
    let s ← spanOf items.size lower upper step
    many (choose items s.places)
  | index => one (items.getD (← placeOf w items.size index) default)

def item (container index : Value) : Run Value := do
  let m ← Run.machine
  match container with
  | .text t =>
    select ofText t.toArray (fun c => return .text [c]) (fun cs => return .text cs) index
  | .octets bs =>
    select ofOctets bs.toArray (fun b => return .int b.toNat) (fun bs => return .octets bs) index
  | .tuple items =>
    select ofTuple items.toArray (fun v => return v) (fun vs => return .tuple vs) index
  | .range start stop step =>
    let length := Value.rangeLength start stop step
    match index with
    | .slice lower upper by_ =>
      let s ← spanOf length lower upper by_
      return .range (start + step * s.start) (start + step * s.stop) (step * s.step)
    | index => return .int (start + step * (← placeOf ofRange length index))
  | .kind k => Run.raiseType ("type '" ++ (k.name : Text) ++ "' is not subscriptable")
  | container =>
    match m.list? container, m.dict? container with
    | some items, _ =>
      select ofList items (fun v => return v) (fun vs => Run.newList vs.toArray) index
    | none, some entries =>
      Run.requireKey index
      match Entries.find? index entries with
      | some v => return v
      | none => Run.raiseWith .keyError [index]
    | none, none =>
      if m.isType container then
        Run.raiseType ("type '" ++ m.nameOf container ++ "' is not subscriptable")
      else Run.raiseType ("'" ++ m.typeName container ++ "' object is not subscriptable")

/-- Puts members into the place of a run of others. -/
def splice (items : Array Value) (start stop : Nat) (new : List Value) : Array Value :=
  items.extract 0 start ++ new.toArray ++ items.extract (max start stop) items.size

/-- Puts members into chosen places one by one. -/
def scatter (items : Array Value) (places : List Nat) (new : List Value) : Array Value :=
  (places.zip new).foldl (fun items (p, v) => items.setIfInBounds p v) items

def removeAt (items : Array Value) (places : List Nat) : Array Value :=
  ((items.toList.zipIdx).filterMap fun (v, i) => if places.contains i then none else some v).toArray

/-- Replaces what a slice of a list chooses. -/
def setSlice (a : Address) (items : Array Value) (s : Span) (v : Value) : Run Unit := do
  if s.step = 1 then
    let new ← Run.members (fun _ => "can only assign an iterable") v
    Run.store a (.list (splice items s.start.toNat s.stop.toNat new))
  else
    let new ← Run.members (fun _ => "must assign iterable to extended slice") v
    let places := s.places
    if new.length = places.length then Run.store a (.list (scatter items places new))
    else
      Run.raiseValue ("attempt to assign sequence of size " ++ Text.ofNat new.length
        ++ " to extended slice of size " ++ Text.ofNat places.length)

def setItem (container index v : Value) : Run Unit := do
  let m ← Run.machine
  match container with
  | .ref a =>
    match m.cell? a with
    | some (.list items) =>
      match index with
      | .slice lower upper step => setSlice a items (← spanOf items.size lower upper step) v
      | index =>
        let p ← placeOf ofListTarget items.size index
        Run.store a (.list (items.setIfInBounds p v))
    | some (.dict entries) =>
      Run.requireKey index
      Run.store a (.dict (Entries.put index v entries))
    | _ => refuse m
  | _ => refuse m
where
  refuse (m : Machine) : Run Unit :=
    Run.raiseType ("'" ++ m.typeName container ++ "' object does not support item assignment")

def deleteItem (container index : Value) : Run Unit := do
  let m ← Run.machine
  match container with
  | .ref a =>
    match m.cell? a with
    | some (.list items) =>
      match index with
      | .slice lower upper step =>
        let s ← spanOf items.size lower upper step
        Run.store a (.list (removeAt items s.places))
      | index =>
        let p ← placeOf ofListTarget items.size index
        Run.store a (.list (items.eraseIdxIfInBounds p))
    | some (.dict entries) =>
      Run.requireKey index
      if (Entries.find? index entries).isSome then
        Run.store a (.dict (Entries.drop index entries))
      else Run.raiseWith .keyError [index]
    | _ => refuse m "does not"
  | .tuple _ | .text _ | .octets _ | .range .. => refuse m "doesn't"
  | _ => refuse m "does not"
where
  refuse (m : Machine) (denial : String) : Run Unit :=
    Run.raiseType ("'" ++ m.typeName container ++ "' object " ++ (denial : Text)
      ++ " support item deletion")

end LiveConsole.Indexing
