import LiveConsole.Script.Parsing

/-!
# Things out of place

Some statements and expressions make sense only inside a function or a loop, or beside others in
a list. The first one out of place is complained about, in the order in which a script is
compiled.
-/

set_option autoImplicit false

namespace LiveConsole.Script.Placement

def refuse {α : Type} (text : Text) (line : Nat) : Except Complaint α :=
  .error ⟨text, some line⟩

/-- A name that cannot be bound. -/
def reserved : Text := "__debug__"

def bindable (verb : Text) (id : Text) (line : Nat) : Except Complaint Unit :=
  if id = reserved then refuse ("cannot " ++ verb ++ " " ++ id) line else .ok ()

/-- Keywords of a call must differ. -/
def distinct : List Argument → Except Complaint Unit
  | [] => .ok ()
  | .keyword _ id _ :: rest =>
    match rest.find? fun
      | .keyword _ other _ => other = id
      | _ => false with
    | some again => refuse ("keyword argument repeated: " ++ id) again.line
    | none => distinct rest
  | _ :: rest => distinct rest

/-- A starred item among others counts as its value. -/
def unstarred (e : Expr) : Expr :=
  match e.shape with
  | .starred value => value
  | _ => e

theorem sizeOf_unstarred_le (e : Expr) : sizeOf (unstarred e) ≤ sizeOf e := by
  unfold unstarred
  split
  · next value h =>
    have : value ∈ e.parts := by simp [Expr.parts, h, Shape.parts]
    exact Nat.le_of_lt (Expr.sizeOf_lt_of_mem_parts this)
  · exact Nat.le_refl _

theorem sizeOf_unstarred_lt {e x : Expr} (h : x ∈ e.parts) : sizeOf (unstarred x) < sizeOf e :=
  Nat.lt_of_le_of_lt (sizeOf_unstarred_le x) (Expr.sizeOf_lt_of_mem_parts h)

theorem mem_parts_of_clause {e item x : Expr} {clauses : List Clause} {c : Clause}
    (h : e.shape = .comprehension item clauses) (hc : c ∈ clauses) (hx : x ∈ c.parts) :
    x ∈ e.parts := by
  simp only [Expr.parts, h, Shape.parts, List.mem_cons, List.mem_flatMap]
  exact .inr ⟨c, hc, hx⟩

/-- At most one target in a list may be starred. -/
def soleStar (items : List Expr) (line : Nat) : Except Complaint Unit :=
  let stars := items.filter fun e =>
    match e.shape with
    | .starred _ => true
    | _ => false
  if stars.length > 1 then refuse "multiple starred expressions in assignment" line else .ok ()

/-- An expression, whose value is wanted or, if `store` holds, that is a target. -/
def expression (inFunction store : Bool) (e : Expr) : Except Complaint Unit :=
  match _h : e.shape with
  | .name id => if store then bindable "assign to" id e.line else .ok ()
  | .starred _ =>
    refuse (if store then "starred assignment target must be in a list or tuple"
      else "can't use starred expression here") e.line
  | .list items | .tuple items => do
    if store then soleStar items e.line
    e.parts.attach.forM fun ⟨x, _⟩ => expression inFunction store (unstarred x)
  | .yield _ | .yieldFrom _ => do
    unless inFunction do refuse "'yield' outside function" e.line
    e.parts.attach.forM fun ⟨x, _⟩ => expression inFunction false x
  | .await _ =>
    if inFunction then refuse "'await' outside async function" e.line
    else refuse "'await' outside function" e.line
  | .call _ arguments => do
    distinct arguments
    e.parts.attach.forM fun ⟨x, _⟩ => expression inFunction false x
  | .lambda _ body => do
    e.parts.attach.dropLast.forM fun ⟨x, _⟩ => expression inFunction false x
    expression true false body
  | .comprehension item clauses => do
    clauses.attach.forM fun ⟨⟨target, source, conditions⟩, _⟩ => do
      expression true false source
      expression true true target
      conditions.attach.forM fun ⟨x, _⟩ => expression true false x
    expression true false item
  | .bind id _ => do
    e.parts.attach.forM fun ⟨x, _⟩ => expression inFunction false x
    bindable "assign to" id e.line
  | _ => e.parts.attach.forM fun ⟨x, _⟩ => expression inFunction false x
termination_by sizeOf e
decreasing_by
  · exact sizeOf_unstarred_lt ‹_›
  · exact sizeOf_unstarred_lt ‹_›
  · exact Expr.sizeOf_lt_of_mem_parts ‹_›
  · exact Expr.sizeOf_lt_of_mem_parts ‹_›
  · exact Expr.sizeOf_lt_of_mem_parts ‹_›
  · exact Expr.sizeOf_lt_of_mem_parts ‹_›
  · exact Expr.sizeOf_lt_of_mem_parts (by simp [Expr.parts, _h, Shape.parts])
  · exact Expr.sizeOf_lt_of_mem_parts
      (mem_parts_of_clause _h ‹_› (by simp [Clause.parts, Clause.target, Clause.source]))
  · exact Expr.sizeOf_lt_of_mem_parts
      (mem_parts_of_clause _h ‹_› (by simp [Clause.parts, Clause.target, Clause.source]))
  · refine Expr.sizeOf_lt_of_mem_parts (mem_parts_of_clause _h ‹Clause.mk _ _ _ ∈ clauses› ?_)
    simp_all [Clause.parts, Clause.conditions]
  · exact Expr.sizeOf_lt_of_mem_parts (by simp [Expr.parts, _h, Shape.parts])
  · exact Expr.sizeOf_lt_of_mem_parts ‹_›
  · exact Expr.sizeOf_lt_of_mem_parts ‹_›

def optional (inFunction : Bool) (e : Option Expr) : Except Complaint Unit :=
  match e with
  | some e => expression inFunction false e
  | none => .ok ()

/-- What surrounds a statement. -/
structure Surroundings where
  inFunction : Bool
  inLoop : Bool

def Surroundings.loop (s : Surroundings) : Surroundings :=
  { s with inLoop := true }

mutual

def statement (s : Surroundings) : Stmt → Except Complaint Unit
  | ⟨line, action⟩ =>
    match action with
    | .expression e => expression s.inFunction false e
    | .assign targets value => do
      expression s.inFunction false value
      targets.forM (expression s.inFunction true)
    | .update target _ value => do
      expression s.inFunction true target
      expression s.inFunction false value
    | .annotate target _ value _ => do
      optional s.inFunction value
      expression s.inFunction true target
    | .delete targets => targets.forM (expression s.inFunction true)
    | .pass => .ok ()
    | .break => if s.inLoop then .ok () else refuse "'break' outside loop" line
    | .continue => if s.inLoop then .ok () else refuse "'continue' not properly in loop" line
    | .return value => do
      unless s.inFunction do refuse "'return' outside function" line
      optional s.inFunction value
    | .global _ | .nonlocal _ => .ok ()
    | .raise error cause => do
      optional s.inFunction error
      optional s.inFunction cause
    | .assert test message => do
      expression s.inFunction false test
      optional s.inFunction message
    | .when test body rest => do
      expression s.inFunction false test
      statements s body
      statements s rest
    | .while test body rest => do
      expression s.inFunction false test
      statements s.loop body
      statements s rest
    | .for target source body rest => do
      expression s.inFunction false source
      expression s.inFunction true target
      statements s.loop body
      statements s rest
    | .try body handlers rest final => do
      statements s body
      statements s rest
      handlersIn s handlers
      statements s final
    | .function _ params _ body => do
      (params.filterMap Param.default).forM (expression s.inFunction false)
      statements ⟨true, false⟩ body
    | .class _ bases body => do
      statements ⟨false, false⟩ body
      distinct bases
      bases.forM fun b => expression s.inFunction false b.value

def statements (s : Surroundings) : List Stmt → Except Complaint Unit
  | [] => .ok ()
  | x :: rest => do
    statement s x
    statements s rest

def handlersIn (s : Surroundings) : List Handler → Except Complaint Unit
  | [] => .ok ()
  | ⟨line, kind, name, body⟩ :: rest => do
    if kind.isNone && !rest.isEmpty then refuse "default 'except:' must be last" line
    optional s.inFunction kind
    name.toList.forM (bindable "assign to" · line)
    statements s body
    handlersIn s rest

end

/-- The first thing out of place in a script. -/
def check : Program → Except Complaint Unit
  | .expression e => expression false false e
  | .statements body => statements ⟨false, false⟩ body

end LiveConsole.Script.Placement
