import LiveConsole.Script.Parsing

/-!
# Scopes

What a script says about names, scope by scope. A body is summed up as a list of mentions; from it
follow the names a scope owns and the complaints about declarations that contradict what stands
before them.
-/

set_option autoImplicit false

namespace LiveConsole.Script

inductive ScopeKind where
  | script
  | function
  | classBody
deriving DecidableEq

mutual

/-- One thing that a body says about a name, or a scope inside it. -/
inductive Mention where
  | use (id : Text)
  | bind (id : Text)
  | named (id : Text)
  | note (id : Text) (line : Nat)
  | global (id : Text) (line : Nat)
  | nonlocal (id : Text) (line : Nat)
  | inner (s : Scope)

inductive Scope where
  | mk (kind : ScopeKind) (params : List (Text × Nat)) (mentions : List Mention)

end

namespace Mention

def isNamed : Mention → Bool
  | named _ => true
  | _ => false

end Mention

namespace Expr

/-- The mentions of an expression; `store` tells that it is a target. A comprehension is a scope
of its own, but its first source and the names that `:=` binds in it belong outside. -/
def mentions (store : Bool) (e : Expr) : List Mention :=
  match h : e.shape with
  | .name id => [if store then .bind id else .use id]
  | .bind id _ => (e.parts.attach.flatMap fun ⟨x, _⟩ => mentions false x) ++ [.named id]
  | .lambda params body =>
    (e.parts.attach.dropLast.flatMap fun ⟨x, _⟩ => mentions false x)
      ++ [.inner ⟨.function, params.map fun p => (p.name, p.line), mentions false body⟩]
  | .comprehension item clauses =>
    let found := clauses.attach.mapIdx fun i ⟨c, _⟩ =>
      c.parts.attach.mapIdx fun j ⟨x, _⟩ => (i = 0 && j = 1, mentions (j = 0) x)
    let (outer, inside) := found.flatten.partition Prod.fst
    let inside := (inside.map Prod.snd).flatten ++ mentions false item
    (outer.map Prod.snd).flatten ++ inside.filter Mention.isNamed
      ++ [.inner ⟨.function, [], inside.filter (!Mention.isNamed ·)⟩]
  | .starred _ | .list _ | .tuple _ => e.parts.attach.flatMap fun ⟨x, _⟩ => mentions store x
  | _ => e.parts.attach.flatMap fun ⟨x, _⟩ => mentions false x
termination_by sizeOf e
decreasing_by
  · exact sizeOf_lt_of_mem_parts ‹_›
  · exact sizeOf_lt_of_mem_parts ‹_›
  · exact sizeOf_lt_of_mem_parts (by simp [parts, h, Shape.parts])
  · refine sizeOf_lt_of_mem_parts ?_
    simp only [parts, h, Shape.parts, List.mem_cons, List.mem_flatMap]
    exact .inr ⟨c, ‹c ∈ clauses›, ‹x ∈ c.parts›⟩
  · exact sizeOf_lt_of_mem_parts (by simp [parts, h, Shape.parts])
  · exact sizeOf_lt_of_mem_parts ‹_›
  · exact sizeOf_lt_of_mem_parts ‹_›
  · exact sizeOf_lt_of_mem_parts ‹_›
  · exact sizeOf_lt_of_mem_parts ‹_›

end Expr

def mentionsOf (e : Option Expr) : List Mention :=
  match e with
  | some e => e.mentions false
  | none => []

def mentionsOfEach (store : Bool) (es : List Expr) : List Mention :=
  es.flatMap (Expr.mentions store)

/-- Annotations are kept as text, so the names in them are not mentioned. -/
def mentionsOfNote (line : Nat) (target : Expr) (value : Option Expr) (simple : Bool) :
    List Mention :=
  match target.shape with
  | .name id =>
    (if simple then [.note id line] else if value.isSome then [.bind id] else [])
      ++ mentionsOf value
  | _ => target.mentions true ++ mentionsOf value

mutual

/-- The mentions of a statement, in the order in which declarations are judged. -/
def Stmt.mentions : Stmt → List Mention
  | ⟨line, action⟩ =>
    match action with
    | .expression value => value.mentions false
    | .assign targets value => mentionsOfEach true targets ++ value.mentions false
    | .update target _ value => target.mentions true ++ value.mentions false
    | .annotate target _ value simple => mentionsOfNote line target value simple
    | .delete targets => mentionsOfEach true targets
    | .pass | .break | .continue => []
    | .return value => mentionsOf value
    | .global names => names.map (.global · line)
    | .nonlocal names => names.map (.nonlocal · line)
    | .raise error cause => mentionsOf error ++ mentionsOf cause
    | .assert test message => test.mentions false ++ mentionsOf message
    | .when test body rest | .while test body rest =>
      test.mentions false ++ mentionsOfBody body ++ mentionsOfBody rest
    | .for target source body rest =>
      target.mentions true ++ source.mentions false ++ mentionsOfBody body ++ mentionsOfBody rest
    | .try body handlers rest final =>
      mentionsOfBody body ++ mentionsOfBody rest ++ mentionsOfHandlers handlers
        ++ mentionsOfBody final
    | .function name params _ body =>
      .bind name :: mentionsOfEach false (params.filterMap Param.default)
        ++ [.inner ⟨.function, params.map fun p => (p.name, p.line), mentionsOfBody body⟩]
    | .class name bases body =>
      .bind name :: mentionsOfEach false (bases.map Argument.value)
        ++ [.inner ⟨.classBody, [], mentionsOfBody body⟩]

def mentionsOfBody : List Stmt → List Mention
  | [] => []
  | s :: rest => s.mentions ++ mentionsOfBody rest

def mentionsOfHandlers : List Handler → List Mention
  | [] => []
  | ⟨_, kind, name, body⟩ :: rest =>
    mentionsOf kind ++ (name.toList.map .bind) ++ mentionsOfBody body ++ mentionsOfHandlers rest

end

namespace Scope

def ofProgram : Program → Scope
  | .expression e => ⟨.script, [], e.mentions false⟩
  | .statements body => ⟨.script, [], mentionsOfBody body⟩

def ofFunction (params : List Param) (body : List Stmt) : Scope :=
  ⟨.function, params.map fun p => (p.name, p.line), mentionsOfBody body⟩

def bound? : Mention → Option Text
  | .bind id | .named id | .note id _ => some id
  | _ => none

def global? : Mention → Option (Text × Nat)
  | .global id line => some (id, line)
  | _ => none

def nonlocal? : Mention → Option (Text × Nat)
  | .nonlocal id line => some (id, line)
  | _ => none

def globals : Scope → List (Text × Nat)
  | mk _ _ mentions => mentions.filterMap global?

def nonlocals : Scope → List (Text × Nat)
  | mk _ _ mentions => mentions.filterMap nonlocal?

def declares (declared : List (Text × Nat)) (id : Text) : Bool :=
  declared.any (·.1 = id)

/-- The names that a function binds for itself: its parameters and what its body binds, unless
declared to belong elsewhere. -/
def owned (s : Scope) : List Text :=
  match s with
  | mk _ params mentions =>
    (params.map Prod.fst ++ mentions.filterMap bound?).eraseDups.filter fun id =>
      !declares s.globals id && !declares s.nonlocals id

/-- What a scope has said about a name so far. -/
structure Standing where
  id : Text
  param : Bool
  used : Bool
  noted : Bool
  bound : Bool
  global : Bool
  nonlocal : Bool

def Standing.new (id : Text) : Standing :=
  ⟨id, false, false, false, false, false, false⟩

def standing (id : Text) : List Standing → Standing
  | [] => .new id
  | s :: rest => if s.id = id then s else standing id rest

/-- Changes what is known of a name. -/
def record (id : Text) (f : Standing → Standing) : List Standing → List Standing
  | [] => [f (.new id)]
  | s :: rest => if s.id = id then f s :: rest else s :: record id f rest

def refuse {α : Type} (text : Text) (line : Nat) : Except Complaint α :=
  .error ⟨text, some line⟩

/-- A declaration must stand before anything else that is said about the name. -/
def judge (word : Text) (s : Standing) (line : Nat) : Except Complaint Unit :=
  if s.param then refuse ("name '" ++ s.id ++ "' is parameter and " ++ word) line
  else if s.used then
    refuse ("name '" ++ s.id ++ "' is used prior to " ++ word ++ " declaration") line
  else if s.noted then refuse ("annotated name '" ++ s.id ++ "' can't be " ++ word) line
  else if s.bound then
    refuse ("name '" ++ s.id ++ "' is assigned to before " ++ word ++ " declaration") line
  else .ok ()

def addParams : List (Text × Nat) → List Standing → Except Complaint (List Standing)
  | [], known => .ok known
  | (id, line) :: rest, known =>
    if (standing id known).param then
      refuse ("duplicate argument '" ++ id ++ "' in function definition") line
    else addParams rest (record id (fun s => { s with param := true }) known)

mutual

/-- Goes through a scope and those inside it in order. -/
def declared : Scope → Except Complaint Unit
  | mk kind params mentions => do
    let known ← addParams params []
    declaredIn kind known mentions

def declaredIn (kind : ScopeKind) : List Standing → List Mention → Except Complaint Unit
  | _, [] => .ok ()
  | known, m :: rest =>
    match m with
    | .use id => declaredIn kind (record id (fun s => { s with used := true }) known) rest
    | .bind id | .named id =>
      declaredIn kind (record id (fun s => { s with bound := true }) known) rest
    | .note id line => do
      let s := standing id known
      if kind ≠ .script && (s.global || s.nonlocal) then
        let word : Text := if s.global then "global" else "nonlocal"
        refuse ("annotated name '" ++ id ++ "' can't be " ++ word) line
      declaredIn kind (record id (fun s => { s with bound := true, noted := true }) known) rest
    | .global id line => do
      judge "global" (standing id known) line
      declaredIn kind (record id (fun s => { s with global := true }) known) rest
    | .nonlocal id line => do
      judge "nonlocal" (standing id known) line
      declaredIn kind (record id (fun s => { s with nonlocal := true }) known) rest
    | .inner s => do
      declared s
      declaredIn kind known rest

end

def judgeNonlocal (globals : List (Text × Nat)) (outer : Option (List Text)) :
    List (Text × Nat) → Except Complaint Unit
  | [] => .ok ()
  | (id, line) :: rest =>
    match globals.find? (·.1 = id) with
    | some (_, first) =>
      refuse ("name '" ++ id ++ "' is nonlocal and global") (min first line)
    | none =>
      match outer with
      | none => refuse "nonlocal declaration not allowed at module level" line
      | some names =>
        if names.contains id then judgeNonlocal globals outer rest
        else refuse ("no binding for nonlocal '" ++ id ++ "' found") line

mutual

/-- A name declared nonlocal must belong to a function around. -/
def resolved (outer : Option (List Text)) : Scope → Except Complaint Unit
  | mk kind params mentions => do
    let s := mk kind params mentions
    judgeNonlocal s.globals outer s.nonlocals
    let around := (outer.getD []).filter (!declares s.globals ·)
    let visible := match kind with
      | .script => []
      | .function => s.owned ++ around
      | .classBody => around
    resolvedIn visible mentions

def resolvedIn (visible : List Text) : List Mention → Except Complaint Unit
  | [] => .ok ()
  | .inner s :: rest => do
    resolved (some visible) s
    resolvedIn visible rest
  | _ :: rest => resolvedIn visible rest

end

/-- The first complaint about the declarations of a script. -/
def check (s : Scope) : Except Complaint Unit := do
  declared s
  resolved none s

end Scope

end LiveConsole.Script
