import LiveConsole.Object.Arithmetic

/-!
# Comparison

Equality and order of values. Members of sequences that are one object count as equal; sequences
are ordered by their first difference.
-/

set_option autoImplicit false

namespace LiveConsole.Comparison

open Script (CompareOp)

/-- How deeply values may be nested to be compared. -/
def depthLimit : Nat := 990

mutual

/-- Equality; none when the values are nested too deeply. -/
def equal? (m : Machine) : Nat → Value → Value → Option Bool
  | 0, _, _ => none
  | bound + 1, a, b =>
    match a, b with
    | .tuple s, .tuple t =>
      if s.length = t.length then equalItems? m bound s t else some false
    | .ref r, .ref s =>
      match m.cell? r, m.cell? s with
      | some (.list xs), some (.list ys) =>
        if xs.size = ys.size then equalItems? m bound xs.toList ys.toList else some false
      | some (.dict es), some (.dict fs) =>
        if es.length = fs.length then equalEntries? m bound es fs else some false
      | some (.settings d), some (.settings e) =>
        equalItems? m bound (Setting.all.map d) (Setting.all.map e)
      | _, _ => some (r == s)
    | .text s, .text t => some (s == t)
    | .range .., .range .. => some (a.equalKeys b)
    | a, b =>
      match a.quantity?, b.quantity? with
      | some x, some y => some (x.equal y)
      | _, _ => some (a.same b)

/-- Whether the members of two lists are equal one by one. -/
def equalItems? (m : Machine) : Nat → List Value → List Value → Option Bool
  | 0, _, _ => none
  | bound + 1, xs, ys =>
    ((xs.zip ys).findSome? fun (x, y) =>
      if x.same y then none
      else match equal? m bound x y with
        | some true => none
        | other => some other).getD (some true)

/-- Whether every entry of one dictionary is in another. -/
def equalEntries? (m : Machine) : Nat → Entries → Entries → Option Bool
  | 0, _, _ => none
  | bound + 1, es, fs =>
    (es.findSome? fun (k, v) =>
      match Entries.find? k fs with
      | none => some (some false)
      | some w =>
        if v.same w then none
        else match equal? m bound v w with
          | some true => none
          | other => some other).getD (some true)

end

def tooDeep {α : Type} : Run α :=
  Run.raise .recursionError "maximum recursion depth exceeded in comparison"

def equal (a b : Value) : Run Bool := do
  match equal? (← Run.machine) depthLimit a b with
  | some b => return b
  | none => tooDeep

/-- Equality of members. -/
def matching (a b : Value) : Run Bool :=
  if a.same b then return true else equal a b

/-- Whether an order relation holds for an outcome of a comparison. -/
def holds : CompareOp → Ordering → Bool
  | .less, o => o == .lt
  | .lessEqual, o => o != .gt
  | .greater, o => o == .gt
  | .greaterEqual, o => o != .lt
  | _, _ => false

def sign : CompareOp → String
  | .less => "<"
  | .lessEqual => "<="
  | .greater => ">"
  | .greaterEqual => ">="
  | _ => ""

def orderTexts (s t : Text) : Ordering :=
  if s == t then .eq else if Text.less s t then .lt else .gt

def orderOctets : List UInt8 → List UInt8 → Ordering
  | [], [] => .eq
  | [], _ :: _ => .lt
  | _ :: _, [] => .gt
  | a :: s, b :: t => if a < b then .lt else if b < a then .gt else orderOctets s t

/-- What an order relation comes down to: an answer, the same question about two members, or none
because the values have no order. -/
inductive Question where
  | answer (b : Bool)
  | members (x y : Value)
  | unordered
  | tooDeep

/-- The first members that differ, or else the lengths, decide. -/
def firstDifference (m : Machine) (op : CompareOp) : List Value → List Value → Question
  | [], [] => .answer (holds op .eq)
  | [], _ :: _ => .answer (holds op .lt)
  | _ :: _, [] => .answer (holds op .gt)
  | x :: xs, y :: ys =>
    if x.same y then firstDifference m op xs ys
    else match equal? m depthLimit x y with
      | some true => firstDifference m op xs ys
      | some false => .members x y
      | none => .tooDeep

def question (m : Machine) (op : CompareOp) (a b : Value) : Question :=
  match a, b with
  | .text s, .text t => .answer (holds op (orderTexts s t))
  | .octets s, .octets t => .answer (holds op (orderOctets s t))
  | .tuple s, .tuple t => firstDifference m op s t
  | .ref _, .ref _ =>
    match m.list? a, m.list? b with
    | some xs, some ys => firstDifference m op xs.toList ys.toList
    | _, _ => .unordered
  | a, b =>
    match a.quantity?, b.quantity? with
    | some x, some y =>
      match x.order y with
      | some o => .answer (holds op o)
      | none => .answer false
    | _, _ => .unordered

/-- An order relation between two values. -/
def ordered (op : CompareOp) : (bound : Nat) → Value → Value → Run Bool
  | 0, _, _ => tooDeep
  | bound + 1, a, b => do
    let m ← Run.machine
    match question m op a b with
    | .answer b => return b
    | .members x y => ordered op bound x y
    | .tooDeep => tooDeep
    | .unordered =>
      Run.raiseType ("'" ++ sign op ++ "' not supported between instances of '" ++ m.typeName a
        ++ "' and '" ++ m.typeName b ++ "'")

def less (a b : Value) : Run Bool :=
  ordered .less depthLimit a b

/-- Whether a list has a member equal to a value. -/
def contains (x : Value) : List Value → Run Bool
  | [] => return false
  | y :: rest => do if ← matching y x then return true else contains x rest

end LiveConsole.Comparison
