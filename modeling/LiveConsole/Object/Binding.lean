import LiveConsole.Object.Interpreter

/-!
# Names at a site

Reading, binding and deleting names: those of the call under way or of the class body, those of the
functions around, the global ones and the built-in ones.
-/

set_option autoImplicit false

namespace LiveConsole

/-- Values that every script can name. -/
def builtin? (id : Text) : Option Value :=
  let name := id.toString
  match name with
  | "NotImplemented" => some .notImplemented
  | "Ellipsis" => some .ellipsis
  | "__debug__" => some (.flag true)
  | "__name__" => some (.text "builtins")
  | _ =>
    ((Kind.ofName? name).map .kind).or ((Builtin.named.find? (·.name = name)).map .builtin)

namespace Site

def undefined {α : Type} (id : Text) : Run α :=
  Run.raise .nameError ("name '" ++ id ++ "' is not defined")

def unboundLocal {α : Type} (id : Text) : Run α :=
  Run.raise .unboundLocalError
    ("cannot access local variable '" ++ id ++ "' where it is not associated with a value")

def unboundOuter {α : Type} (id : Text) : Run α :=
  Run.raise .nameError ("cannot access free variable '" ++ id
    ++ "' where it is not associated with a value in enclosing scope")

/-- The slot of a name in a call: its value, if it is bound. -/
def slot? (m : Machine) (frame : Address) (id : Text) : Option (Option Value) :=
  match m.cell? frame with
  | some (.frame slots) => (slots.find? fun s => s.1 = id).map Prod.snd
  | _ => none

def setSlot (m : Machine) (frame : Address) (id : Text) (v : Option Value) : Machine :=
  match m.cell? frame with
  | some (.frame slots) =>
    m.put frame (.frame (slots.map fun s => if s.1 = id then (id, v) else s))
  | _ => m

/-- The innermost call around that owns a name. -/
def owner? (m : Machine) (frames : List Address) (id : Text) : Option Address :=
  frames.find? fun a => (slot? m a id).isSome

def isGlobal (s : Site) (id : Text) : Bool :=
  s.globals.contains id

def readGlobal (id : Text) : Run Value := do
  match (Names.find? id (← Run.machine).globals).or (builtin? id) with
  | some v => return v
  | none => undefined id

/-- Reads a name of the functions around, or else a global one. -/
def readOuter (s : Site) (id : Text) : Run Value := do
  let m ← Run.machine
  match owner? m s.outer id with
  | none => readGlobal id
  | some a =>
    match (slot? m a id).join with
    | some v => return v
    | none => unboundOuter id

def members (m : Machine) (a : Address) : Names :=
  match m.cell? a with
  | some (.names members) => members
  | _ => []

def read (s : Site) (id : Text) : Run Value := do
  if s.isGlobal id then readGlobal id
  else
    let m ← Run.machine
    match s.place with
    | .script => readGlobal id
    | .function frame =>
      match slot? m frame id with
      | some (some v) => return v
      | some none => unboundLocal id
      | none => s.readOuter id
    | .class a _ =>
      match Names.find? id (members m a) with
      | some v => return v
      | none => s.readOuter id

/-- Where a name is bound. -/
inductive Home where
  | global
  | call (frame : Address)
  | class (members : Address)

def home (m : Machine) (s : Site) (id : Text) : Home :=
  if s.isGlobal id then .global
  else
    match s.place with
    | .script => .global
    | .function frame =>
      match owner? m (frame :: s.outer) id with
      | some a => .call a
      | none => .global
    | .class a nonlocals =>
      if nonlocals.contains id then
        match owner? m s.outer id with
        | some a => .call a
        | none => .class a
      else .class a

def bind (s : Site) (id : Text) (v : Value) : Run Unit :=
  modify fun m =>
    match s.home m id with
    | .global => { m with globals := Names.put id v m.globals }
    | .call frame => setSlot m frame id (some v)
    | .class a => m.put a (.names (Names.put id v (members m a)))

/-- Whether a name is bound where it belongs. -/
def isBound (m : Machine) (s : Site) (id : Text) : Bool :=
  match s.home m id with
  | .global => m.globals.has id
  | .call frame => (slot? m frame id).join.isSome
  | .class a => (members m a).has id

def release (s : Site) (id : Text) : Run Unit :=
  modify fun m =>
    match s.home m id with
    | .global => { m with globals := Names.drop id m.globals }
    | .call frame => setSlot m frame id none
    | .class a => m.put a (.names (Names.drop id (members m a)))

def delete (s : Site) (id : Text) : Run Unit := do
  let m ← Run.machine
  if isBound m s id then s.release id
  else
    match s.home m id, s.place with
    | .call a, .function frame => if a = frame then unboundLocal id else unboundOuter id
    | .call _, _ => unboundOuter id
    | _, _ => undefined id

end Site

end LiveConsole
