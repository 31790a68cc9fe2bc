import LiveConsole.Object.Value
import LiveConsole.Net.Server

/-!
# The store of a running script

Global names in the order in which they were bound, and the cells behind references.
-/

set_option autoImplicit false

namespace LiveConsole

/-- Names with their values, in the order in which they were bound. -/
abbrev Names := List (Text × Value)

namespace Names

def find? (id : Text) : Names → Option Value
  | [] => none
  | (k, v) :: rest => if k = id then some v else find? id rest

/-- A name already there keeps its place. -/
def put (id : Text) (v : Value) : Names → Names
  | [] => [(id, v)]
  | (k, w) :: rest => if k = id then (k, v) :: rest else (k, w) :: put id v rest

def drop (id : Text) : Names → Names
  | [] => []
  | (k, w) :: rest => if k = id then rest else (k, w) :: drop id rest

def has (names : Names) (id : Text) : Bool :=
  (find? id names).isSome

end Names

inductive Body where
  | statements (body : List Script.Stmt)
  | expression (e : Script.Expr)

/-- A function of a script; `home` is the name of its module. Its own names start unbound on every
call, parameters aside. -/
structure Function where
  name : Text
  path : Text
  home : Value
  params : List Text
  defaults : List Value
  owned : List Text
  globals : List Text
  outer : List Address
  body : Body

/-- A class of a script, with the classes and kinds above it, nearest first. It is itself of a kind
or class, which is `type` or below it. -/
structure Class where
  name : Text
  path : Text
  type : Value
  bases : List Value
  above : List Value

abbrev Entries := List (Value × Value)

inductive Cell where
  | list (items : Array Value)
  | dict (entries : Entries)
  | frame (slots : List (Text × Option Value))
  | names (members : Names)
  | function (f : Function) (fields : Names)
  | class (c : Class) (members : Names)
  | instance (of : Address) (fields : Names)
  | error (of : Value) (args : List Value) (fields : Names)
  | settings (values : Draft Value)

/-- What a script has built up: global names and cells. While it runs there are also the errors now
being handled and the containers now being written out, the latest first, and how many calls are
under way. What the console uses as sockets belongs to it as well, and the server of the process. -/
structure Machine where
  globals : Names
  heap : Array Cell
  handled : List Value
  showing : List Address
  depth : Nat
  sockets : Value
  serving : Option (Net.Server Value)

namespace Machine

def empty : Machine := ⟨[], #[], [], [], 0, .module .sockets, none⟩

instance : Inhabited Machine where
  default := empty

def cell? (m : Machine) (a : Address) : Option Cell :=
  m.heap[a]?

def put (m : Machine) (a : Address) (c : Cell) : Machine :=
  { m with heap := m.heap.setIfInBounds a c }

def push (m : Machine) (c : Cell) : Address × Machine :=
  (m.heap.size, { m with heap := m.heap.push c })

def list? (m : Machine) (v : Value) : Option (Array Value) :=
  match v with
  | .ref a =>
    match m.cell? a with
    | some (.list items) => some items
    | _ => none
  | _ => none

def dict? (m : Machine) (v : Value) : Option Entries :=
  match v with
  | .ref a => entries? m a
  | _ => none
where
  entries? (m : Machine) (a : Address) : Option Entries :=
    match m.cell? a with
    | some (.dict entries) => some entries
    | _ => none

/-- The kind or class of a value. -/
def typeOf (m : Machine) (v : Value) : Value :=
  match v with
  | .none => .kind .none
  | .ellipsis => .kind .ellipsis
  | .notImplemented => .kind .notImplemented
  | .flag _ => .kind .flag
  | .int _ => .kind .int
  | .float _ => .kind .float
  | .text _ => .kind .text
  | .octets _ => .kind .octets
  | .tuple _ => .kind .tuple
  | .range .. => .kind .range
  | .slice .. => .kind .slice
  | .kind _ => .kind .type
  | .builtin _ | .method _ _ => .kind .builtin
  | .descriptor _ => .kind .descriptor
  | .bound _ _ => .kind .method
  | .view part _ => .kind part.kind
  | .module _ => .kind .module
  | .number a _ =>
    match m.cell? a with
    | some (.instance of _) => .ref of
    | _ => .kind .int
  | .ref a =>
    match m.cell? a with
    | some (.list _) => .kind .list
    | some (.dict _) => .kind .dict
    | some (.function _ _) => .kind .function
    | some (.class c _) => c.type
    | some (.instance of _) => .ref of
    | some (.error of _ _) => of
    | some (.settings _) => .kind .settings
    | _ => .kind .object

/-- The name of a kind or class. -/
def nameOf (m : Machine) (type : Value) : Text :=
  match type with
  | .kind k => k.name
  | .ref a =>
    match m.cell? a with
    | some (.class c _) => c.name
    | _ => []
  | _ => []

def typeName (m : Machine) (v : Value) : Text :=
  m.nameOf (m.typeOf v)

/-- A kind or class with all those above it. -/
def lineage (m : Machine) (type : Value) : List Value :=
  match type with
  | .kind k => k.lineage.map .kind
  | .ref a =>
    match m.cell? a with
    | some (.class c _) => type :: c.above
    | _ => []
  | _ => []

def isType (m : Machine) (v : Value) : Bool :=
  match v with
  | .kind _ => true
  | .ref a =>
    match m.cell? a with
    | some (.class _ _) => true
    | _ => false
  | _ => false

def isBelow (m : Machine) (type above : Value) : Bool :=
  (m.lineage type).any (Value.same above)

/-- The built-in kind that a kind or class goes back to. -/
def rootKind (m : Machine) (type : Value) : Kind :=
  match (m.lineage type).find? (fun | .kind _ => true | _ => false) with
  | some (.kind k) => k
  | _ => .object

/-- The built-in error kind of an error. -/
def errorKind? (m : Machine) (type : Value) : Option ErrorKind :=
  match m.rootKind type with
  | .error k => some k
  | _ => none

/-- Whether raising a value, or instances of it, is possible. -/
def isErrorType (m : Machine) (v : Value) : Bool :=
  m.isType v && (m.errorKind? v).isSome

def isError (m : Machine) (v : Value) : Bool :=
  match v with
  | .ref a =>
    match m.cell? a with
    | some (.error ..) => true
    | _ => false
  | _ => false

/-- The members of a class, not those above it. -/
def members (m : Machine) (type : Value) : Names :=
  match type with
  | .ref a =>
    match m.cell? a with
    | some (.class _ members) => members
    | _ => []
  | _ => []

/-- A member of a class or of those above it. -/
def member? (m : Machine) (type : Value) (id : Text) : Option Value :=
  (m.lineage type).findSome? fun t => Names.find? id (m.members t)

/-- The first part of a value that cannot be a key, nor therefore the value. -/
def unhashable? (m : Machine) : Value → Option Value
  | .tuple items => first m items
  | .slice lower upper step => some (.slice lower upper step)
  | .ref a =>
    match m.cell? a with
    | some (.list _) | some (.dict _) => some (.ref a)
    | _ => none
  | _ => none
where
  first (m : Machine) : List Value → Option Value
    | [] => none
    | v :: rest => (m.unhashable? v).or (first m rest)

end Machine

end LiveConsole
