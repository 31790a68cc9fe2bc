import LiveConsole.Object.DictMethods
import LiveConsole.Object.Functions
import LiveConsole.Object.Inheritance
import LiveConsole.Object.ListMethods
import LiveConsole.Object.TextMethods

/-!
# Calls

Calling functions, classes and methods. The arguments of a call are matched with the parameters of
a function first by position and then by name; defaults fill what is left.
-/

set_option autoImplicit false

namespace LiveConsole

namespace Function

/-- Parameters with their values so far. -/
abbrev Slots := List (Text × Option Value)

/-- Why arguments do not fit the parameters. -/
inductive Misfit where
  | unexpected (name : Text)
  | repeated (name : Text)
  | tooMany (given : Nat)
  | missing (names : List Text)

def byPosition : List Text → List Value → Slots
  | [], _ => []
  | p :: ps, [] => (p, none) :: byPosition ps []
  | p :: ps, v :: vs => (p, some v) :: byPosition ps vs

/-- Gives a parameter its value by name. -/
def assign (id : Text) (v : Value) : Slots → Except Misfit Slots
  | [] => .error (.unexpected id)
  | (p, found) :: rest =>
    if p = id then
      if found.isSome then .error (.repeated id) else .ok ((p, some v) :: rest)
    else (assign id v rest).map ((p, found) :: ·)

def byName : Names → Slots → Except Misfit Slots
  | [], slots => .ok slots
  | (id, v) :: rest, slots => do byName rest (← assign id v slots)

/-- Fills what is left from the end with defaults. -/
def withDefaults (defaults : List Value) (slots : Slots) : Slots :=
  let first := slots.length - defaults.length
  slots.mapIdx fun n (p, found) => (p, found.or (if first ≤ n then defaults[n - first]? else none))

def match? (f : Function) (args : List Value) (named : Names) : Except Misfit Slots := do
  let slots ← byName named (byPosition f.params args)
  if args.length > f.params.length then throw (.tooMany args.length)
  let slots := withDefaults f.defaults slots
  match slots.filter fun s => s.2.isNone with
  | [] => return slots
  | missing => throw (.missing (missing.map Prod.fst))

def quotedList (names : List Text) : Text :=
  let quoted : List Text := names.map fun n => "'" ++ n ++ "'"
  match quoted with
  | [a] => a
  | [a, b] => a ++ " and " ++ b
  | quoted => Text.join ", " quoted.dropLast ++ ", and " ++ quoted.getLastD []

def Misfit.message (f : Function) : Misfit → Text
  | .unexpected id => f.path ++ "() got an unexpected keyword argument '" ++ id ++ "'"
  | .repeated id => f.path ++ "() got multiple values for argument '" ++ id ++ "'"
  | .tooMany given =>
    let most := f.params.length
    let least := most - f.defaults.length
    let takes : Text :=
      if f.defaults.isEmpty then Arguments.plural most "positional argument"
      else "from " ++ Text.ofNat least ++ " to " ++ Text.ofNat most ++ " positional arguments"
    f.path ++ "() takes " ++ takes ++ " but " ++ Text.ofNat given
      ++ (if given = 1 then " was given" else " were given" : String)
  | .missing names =>
    f.path ++ "() missing " ++ Arguments.plural names.length "required positional argument" ++ ": "
      ++ quotedList names

/-- The names of a call: parameters with their values, the other names unbound. -/
def frame (f : Function) (slots : Slots) : Slots :=
  f.owned.map fun id => (id, ((slots.find? fun s => s.1 = id).bind Prod.snd))

def site (f : Function) (frame : Address) : Site :=
  ⟨.function frame, f.globals, f.outer, f.path ++ ".<locals>."⟩

def call (i : Interpreter) (f : Function) (args : List Value) (named : Names) : Run Value := do
  match f.match? args named with
  | .error misfit => Run.raiseType (misfit.message f)
  | .ok slots =>
    let frame ← Run.alloc (.frame (f.frame slots))
    Run.deeper do
      match f.body with
      | .expression e => i.evaluate (f.site frame) e
      | .statements body =>
        match ← i.execute (f.site frame) body with
        | .returned v => return v
        | _ => return .none

end Function

namespace Class

/-- A new error of a class; the arguments are kept. -/
def newError (type : Value) (kind : ErrorKind) (args : List Value) : Run Value := do
  match type, kind, args with
  | .kind _, .systemError, .int n :: _ :: rest =>
    let kind := if rest.length ≤ 3 then ErrorKind.ofNumber n else .systemError
    return .ref (← Run.alloc (.error (.kind (.error kind)) args []))
  | type, _, args => return .ref (← Run.alloc (.error type args []))

/-- Lets an object set itself up. -/
def setUp (i : Interpreter) (setter self : Value) (args : List Value) (named : Names) :
    Run Unit := do
  let m ← Run.machine
  let args := if Field.isFunction m setter then self :: args else args
  match ← i.call setter args named with
  | .none => return ()
  | v => Run.raiseType ("__init__() should return None, not '" ++ (← Run.typeName v) ++ "'")

/-- A class of classes makes classes. -/
def makeClass (i : Interpreter) (type : Value) (setter : Option Value) (args : List Value)
    (named : Names) : Run Value := do
  match args with
  | [name, bases, members] =>
    let self ← Inheritance.fromParts type name bases members
    match setter with
    | some setter => setUp i setter self args named
    | none => Arguments.unnamed "type.__init__" named
    return self
  | args =>
    Run.raiseType ("type.__new__() takes exactly 3 arguments (" ++ Text.ofNat args.length
      ++ " given)")

def instantiate (i : Interpreter) (a : Address) (c : Class) (args : List Value) (named : Names) :
    Run Value := do
  let m ← Run.machine
  let type := Value.ref a
  let setter := m.member? type "__init__"
  match m.rootKind type with
  | .type => makeClass i type setter args named
  | .error kind =>
    if setter.isNone && !named.isEmpty then
      Run.raiseType (c.name ++ "() takes no keyword arguments")
    let self ← newError type kind args
    if let some setter := setter then setUp i setter self args named
    return self
  | .int =>
    let n ← Conversion.toInteger args named
    let self := Value.number (← Run.alloc (.instance a [])) n
    if let some setter := setter then setUp i setter self args named
    return self
  | _ =>
    if setter.isNone && !(args.isEmpty && named.isEmpty) then
      Run.raiseType (c.name ++ "() takes no arguments")
    let self := Value.ref (← Run.alloc (.instance a []))
    if let some setter := setter then setUp i setter self args named
    return self

end Class

namespace Kind

/-- What calling a kind makes. -/
def call (i : Interpreter) (k : Kind) (args : List Value) (named : Names) : Run Value := do
  match k with
  | .type =>
    match args with
    | [v] => Run.typeOf v
    | [name, bases, members] => Inheritance.fromParts (.kind .type) name bases members
    | _ => Run.raiseType "type() takes 1 or 3 arguments"
  | .int => Conversion.int args named
  | .text => Conversion.text i args named
  | .dict => Run.newDict (← Conversion.entries "dict" [] args named)
  | .error kind =>
    Arguments.unnamed kind.name named
    Class.newError (.kind k) kind args
  | k =>
    Arguments.unnamed k.name named
    match k with
    | .object =>
      if args.isEmpty then return .ref (← Run.alloc (.names []))
      else Run.raiseType "object() takes no arguments"
    | .flag => Conversion.flag args
    | .float => Conversion.float args
    | .octets => Conversion.octets args
    | .tuple => return .tuple (← Conversion.members "tuple" args)
    | .list => Run.newList (← Conversion.members "list" args).toArray
    | .range => Conversion.range args
    | .slice => Conversion.slice args
    | .none | .ellipsis | .notImplemented =>
      if !args.isEmpty then Run.raiseType ((k.name : Text) ++ " takes no arguments")
      else
        return match k with
          | .ellipsis => .ellipsis
          | .notImplemented => .notImplemented
          | _ => .none
    | k => Run.raiseType ("cannot create '" ++ (k.name : Text) ++ "' instances")

end Kind

namespace Method

def apply (i : Interpreter) (m : Method) (self : Value) (args : List Value) (named : Names) :
    Run Value := do
  match m, self with
  | .text m, .text t => m.apply t args named
  | .list m, .ref a => m.apply i a args named
  | .dict m, .ref a => m.apply a args named
  | .tuple m, .tuple items => m.apply items args named
  | _, _ => return .none

/-- Calls a method through its kind, with the receiver as the first argument. -/
def applyTo (i : Interpreter) (m : Method) (args : List Value) (named : Names) : Run Value := do
  let kind : Text := m.kind.name
  match args with
  | [] => Run.raiseType ("unbound method " ++ kind ++ "." ++ (m.name : Text)
      ++ "() needs an argument")
  | self :: args =>
    if (← Run.typeOf self).same (.kind m.kind) then apply i m self args named
    else
      Run.raiseType ("descriptor '" ++ (m.name : Text) ++ "' for '" ++ kind
        ++ "' objects doesn't apply to a '" ++ (← Run.typeName self) ++ "' object")

end Method

namespace Interpreter

/-- Calls a value. -/
def applyValue (i : Interpreter) (v : Value) (args : List Value) (named : Names) : Run Value := do
  let refuse : Run Value := do
    Run.raiseType ("'" ++ (← Run.typeName v) ++ "' object is not callable")
  match v with
  | .kind k => k.call i args named
  | .builtin f => f.apply i args named
  | .method m self => m.apply i self args named
  | .descriptor m => m.applyTo i args named
  | .bound f self => i.call f (self :: args) named
  | .ref a =>
    match (← Run.machine).cell? a with
    | some (.function f _) => f.call i args named
    | some (.class c _) => c.instantiate i a args named
    | _ => refuse
  | _ => refuse

end Interpreter

end LiveConsole
