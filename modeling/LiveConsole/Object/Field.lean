import LiveConsole.Object.Iteration

/-!
# Fields

Reading, setting and deleting named parts of objects. What an object lacks is looked up in its
class and in those above; a function found there becomes a method of the object.
-/

set_option autoImplicit false

namespace LiveConsole.Field

def isFunction (m : Machine) (v : Value) : Bool :=
  m.typeOf v |>.same (.kind .function)

/-- A member of a class as a part of one of its objects. -/
def bind (m : Machine) (member self : Value) : Value :=
  if isFunction m member then .bound member self else member

/-- Arguments that an error gives a name to. -/
def ofArguments? (kind : ErrorKind) (args : List Value) (id : String) : Option Value :=
  match id with
  | "args" => some (.tuple args)
  | "errno" => if kind.isA .systemError then some (numbered args 0) else none
  | "strerror" => if kind.isA .systemError then some (numbered args 1) else none
  | "value" => if kind.isA .stopIteration then some (args.getD 0 .none) else none
  | "code" =>
    if kind.isA .systemExit then
      match args with
      | [] => some .none
      | [code] => some code
      | codes => some (.tuple codes)
    else none
  | "msg" => if kind.isA .syntaxError then some (args.getD 0 .none) else none
  | "__cause__" | "__context__" | "__traceback__" => some .none
  | _ => none
where
  numbered (args : List Value) (i : Nat) : Value :=
    if args.length < 2 then .none else args.getD i .none

def ofFunction? (f : Function) (id : String) : Option Value :=
  match id with
  | "__name__" => some (.text f.name)
  | "__qualname__" => some (.text f.path)
  | "__module__" => some f.home
  | "__defaults__" => some (if f.defaults.isEmpty then .none else .tuple f.defaults)
  | "__doc__" => some .none
  | _ => none

def ofBuiltin? (f : Builtin) (id : String) : Option Value :=
  match id with
  | "__name__" | "__qualname__" => some (.text f.name)
  | "__module__" => some (.text (if f = .exit then "sys" else "builtins"))
  | _ => none

def ofMethod? (method : Method) (id : String) : Option Value :=
  match id with
  | "__name__" => some (.text method.name)
  | "__qualname__" => some (.text ((method.kind.name : Text) ++ "." ++ (method.name : Text)))
  | _ => none

def ofType? (m : Machine) (type : Value) (id : String) : Option Value :=
  match id with
  | "__name__" => some (.text (m.nameOf type))
  | "__qualname__" =>
    match type with
    | .ref a =>
      match m.cell? a with
      | some (.class c _) => some (.text c.path)
      | _ => none
    | type => some (.text (m.nameOf type))
  | "__bases__" =>
    match type with
    | .ref a =>
      match m.cell? a with
      | some (.class c _) => some (.tuple c.bases)
      | _ => none
    | type => some (.tuple (((m.lineage type).drop 1).take 1))
  | "__mro__" => some (.tuple (m.lineage type))
  | _ => none

def ofModule? (m : Machine) (module : Module) (id : String) : Option Value :=
  match module, id with
  | .system, "exit" => some (.builtin .exit)
  | .system, "maxsize" => some (.int (twoTo 63 - 1))
  | .console, "make_config" => some (.builtin .makeSettings)
  | .console, "is_running" => some (.builtin .isRunning)
  | .console, "start" => some (.builtin .startServer)
  | .console, "stop" => some (.builtin .stopServer)
  | .console, "transport" => some (.module .transport)
  | .console, "ReplError" => some (.kind (.error .replError))
  | .console, "ConfigError" => some (.kind (.error .configError))
  | .transport, "socket" => some m.sockets
  | _, _ => none

/-- The options of settings, and how a layer is laid over them. -/
def ofSettings? (d : Draft Value) (v : Value) (id : Text) : Option Value :=
  match Setting.all.find? fun s => Text.ofString s.name = id with
  | some s => some (d s)
  | none =>
    if id = Text.ofString "merged" then some (.bound (.builtin .mergeSettings) v) else none

/-- The fields of an object, and the members of its class. -/
def ofInstance? (m : Machine) (of : Address) (fields : Names) (v : Value) (id : Text) :
    Option Value :=
  (Names.find? id fields).or ((m.member? (.ref of) id).map (bind m · v))

def ofKind? (id : String) : Option Value :=
  if id = "__module__" then some (.text "builtins") else none

/-- A part of a class. The class that it belongs to comes first with a part that is no function of the
class itself; then come the parts that every class has, and then the members. -/
def ofClass? (m : Machine) (type v : Value) (id : Text) : Option Value :=
  match m.member? type id with
  | some w => (m.member? v id).or (some (bind m w v))
  | none => ((ofType? m v id.toString).or (m.member? v id)).or (ofKind? id.toString)

/-- A part of a value that can be read without changing anything. -/
def find? (m : Machine) (v : Value) (id : Text) : Option Value :=
  let name := id.toString
  let own : Option Value :=
    match v with
    | .kind k =>
      ((ofType? m v name).or (ofKind? name)).or ((Method.find? k id).map .descriptor)
    | .module module => ofModule? m module name
    | .builtin f => ofBuiltin? f name
    | .method method self =>
      if name = "__self__" then some self else ofMethod? method name
    | .descriptor method => ofMethod? method name
    | .bound f self =>
      if name = "__self__" then some self
      else if name = "__func__" then some f
      else
        match f with
        | .ref a =>
          match m.cell? a with
          | some (.function f fields) => (Names.find? id fields).or (ofFunction? f name)
          | _ => none
        | _ => none
    | .range start stop step | .slice (.int start) (.int stop) (.int step) =>
      match name with
      | "start" => some (.int start)
      | "stop" => some (.int stop)
      | "step" => some (.int step)
      | _ => none
    | .number a _ =>
      match m.cell? a with
      | some (.instance of fields) => ofInstance? m of fields v id
      | _ => none
    | .ref a =>
      match m.cell? a with
      | some (.instance of fields) => ofInstance? m of fields v id
      | some (.error of args fields) =>
        ((Names.find? id fields).or ((m.member? of id).map (bind m · v))).or
          (ofArguments? ((m.errorKind? of).getD .exception) args name)
      | some (.class c _) => ofClass? m c.type v id
      | some (.function f fields) => (Names.find? id fields).or (ofFunction? f name)
      | some (.list _) => (Method.find? .list id).map (.method · v)
      | some (.dict _) => (Method.find? .dict id).map (.method · v)
      | some (.settings d) => ofSettings? d v id
      | _ => none
    | .text _ => (Method.find? .text id).map (.method · v)
    | .tuple _ => (Method.find? .tuple id).map (.method · v)
    | _ => none
  own.or (if name = "__class__" then some (m.typeOf v) else none)

/-- How a missing part is reported. -/
def missing (m : Machine) (v : Value) (id : Text) : Text :=
  match v with
  | .module m => "module '" ++ (m.name : Text) ++ "' has no attribute '" ++ id ++ "'"
  | v =>
    if m.isType v then "type object '" ++ m.nameOf v ++ "' has no attribute '" ++ id ++ "'"
    else "'" ++ m.typeName v ++ "' object has no attribute '" ++ id ++ "'"

def raiseMissing {α : Type} (v : Value) (id : Text) : Run α := do
  Run.raise .attributeError (missing (← Run.machine) v id)

/-- The annotations of a class that has none so far, or the fields of an object. -/
def created? (m : Machine) (v : Value) (id : Text) : Option (Run Value) :=
  match v with
  | .ref a =>
    match m.cell? a, id.toString with
    | some (.class c members), "__annotations__" =>
      some do
        let notes ← Run.newDict []
        Run.store a (.class c (Names.put id notes members))
        return notes
    | some (.instance _ fields), "__dict__" | some (.error _ _ fields), "__dict__" =>
      some (Run.newDict (fields.map fun (k, w) => (.text k, w)))
    | _, _ => none
  | _ => none

def get? (v : Value) (id : Text) : Run (Option Value) := do
  let m ← Run.machine
  match find? m v id with
  | some w => return some w
  | none =>
    match created? m v id with
    | some r => return some (← r)
    | none => return none

def read (v : Value) (id : Text) : Run Value := do
  match ← get? v id with
  | some w => return w
  | none => raiseMissing v id

/-- Changes the names that an object owns; `change` fails on a name that must be there. -/
def edit (v : Value) (id : Text) (change : Names → Option Names) : Run Unit := do
  let m ← Run.machine
  let store (a : Address) (cell : Names → Cell) (names : Names) : Run Unit :=
    match change names with
    | some names => Run.store a (cell names)
    | none => raiseMissing v id
  match v with
  | .kind k =>
    Run.raiseType ("cannot set '" ++ id ++ "' attribute of immutable type '" ++ (k.name : Text)
      ++ "'")
  | .number a _ =>
    match m.cell? a with
    | some (.instance of fields) => store a (.instance of) fields
    | _ => raiseMissing v id
  | .ref a =>
    match m.cell? a with
    | some (.instance of fields) => store a (.instance of) fields
    | some (.error of args fields) => store a (.error of args) fields
    | some (.class c members) => store a (.class c) members
    | some (.function f fields) => store a (.function f) fields
    | some (.list _) => refuse m .list
    | some (.dict _) => refuse m .dict
    | some (.settings _) =>
      -- Only a deletion fails on names that are not there.
      let assigning := (change []).isSome
      Run.raise .frozenInstanceError
        ((if assigning then "cannot assign to field '" else "cannot delete field '" : Text)
          ++ id ++ "'")
    | _ => raiseMissing v id
  | v =>
    match m.typeOf v with
    | .kind k => refuse m k
    | _ => raiseMissing v id
where
  refuse (m : Machine) (k : Kind) : Run Unit :=
    if (Method.find? k id).isSome then
      Run.raise .attributeError ("'" ++ m.typeName v ++ "' object attribute '" ++ id
        ++ "' is read-only")
    else raiseMissing v id

/-- Renames a class, unless the class that it belongs to has such a part itself. -/
def rename (a : Address) (id : Text) (c : Class) (members : Names) (rename : Text → Class)
    (w : Value) : Run Unit := do
  if ((← Run.machine).member? c.type id).isSome then
    Run.store a (.class c (Names.put id w members))
  else
    match w with
    | .text t => Run.store a (.class (rename t) members)
    | w =>
      Run.raiseType ("can only assign string to " ++ c.name ++ "." ++ id ++ ", not '"
        ++ (← Run.typeName w) ++ "'")

def set (v : Value) (id : Text) (w : Value) : Run Unit := do
  match v, id.toString with
  | .module .transport, "socket" => modify fun m => { m with sockets := w }
  | .ref a, "__name__" =>
    match (← Run.machine).cell? a with
    | some (.class c members) => rename a id c members (fun t => { c with name := t }) w
    | _ => edit v id fun names => some (Names.put id w names)
  | .ref a, "__qualname__" =>
    match (← Run.machine).cell? a with
    | some (.class c members) => rename a id c members (fun t => { c with path := t }) w
    | _ => edit v id fun names => some (Names.put id w names)
  | .ref a, "args" =>
    match (← Run.machine).cell? a with
    | some (.error of _ fields) => Run.store a (.error of (← Run.elements w) fields)
    | _ => edit v id fun names => some (Names.put id w names)
  | _, _ => edit v id fun names => some (Names.put id w names)

def delete (v : Value) (id : Text) : Run Unit :=
  edit v id fun names => if names.has id then some (Names.drop id names) else none

end LiveConsole.Field
