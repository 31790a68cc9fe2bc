import LiveConsole.Object.Arguments

/-!
# Making classes

The classes above a class stand in one order, in which every class comes before those above it and
the bases of each keep their order.
-/

set_option autoImplicit false

namespace LiveConsole.Inheritance

def occursIn (v : Value) (vs : List Value) : Bool :=
  vs.any (Value.same v)

/-- The first head of the lines that stands in no tail. -/
def candidate? (lines : List (List Value)) : Option Value :=
  (lines.filterMap List.head?).find? fun v => !lines.any fun line => occursIn v (line.drop 1)

/-- Merges lines of classes into one that agrees with all of them, if there is one. -/
def merge? : (bound : Nat) → List (List Value) → Option (List Value)
  | 0, _ => none
  | bound + 1, lines =>
    let lines := lines.filter fun line => !line.isEmpty
    if lines.isEmpty then some []
    else do
      let v ← candidate? lines
      let rest ← merge? bound (lines.map fun line => line.filter fun w => !w.same v)
      return v :: rest

def above? (m : Machine) (bases : List Value) : Option (List Value) :=
  let lines := bases.map m.lineage ++ [bases]
  merge? (lines.flatten.length + 1) lines

def duplicate? : List Value → Option Value
  | [] => none
  | v :: rest => if occursIn v rest then some v else duplicate? rest

/-- A base that no class may have. -/
def unacceptable? (bases : List Value) : Option Kind :=
  bases.findSome? fun
    | .kind k => if k.isBase then none else some k
    | _ => none

/-- The lowest of a kind or class of classes and of those that bases have. -/
def lowest? (m : Machine) (type : Value) : List Value → Option Value
  | [] => some type
  | base :: rest =>
    let other := m.typeOf base
    if m.isBelow type other then lowest? m type rest
    else if m.isBelow other type then lowest? m other rest
    else none

/-- The kind or class of a class that is made with bases. -/
def typeOf (type : Value) (bases : List Value) : Run Value := do
  match lowest? (← Run.machine) type bases with
  | some type => return type
  | none =>
    Run.raiseType ("metaclass conflict: the metaclass of a derived class must be a (non-strict) "
      ++ "subclass of the metaclasses of all its bases")

/-- Makes a class of classes and kinds as bases. -/
def ofBases (type : Value) (name path : Text) (bases : List Value) (members : Names) :
    Run Value := do
  let m ← Run.machine
  match unacceptable? bases with
  | some k => Run.raiseType ("type '" ++ (k.name : Text) ++ "' is not an acceptable base type")
  | none =>
    match duplicate? bases with
    | some v => Run.raiseType ("duplicate base class " ++ m.nameOf v)
    | none =>
      let bases := if bases.isEmpty then [.kind .object] else bases
      match above? m bases with
      | some above =>
        return .ref (← Run.alloc (.class ⟨name, path, type, bases, above⟩ members))
      | none =>
        Run.raiseType ("Cannot create a consistent method resolution\norder (MRO) for bases "
          ++ Text.join ", " (bases.map m.nameOf))

/-- Makes a class; what is in its bases decides of what kind or class it is. -/
def newClass (type : Value) (name path : Text) (bases : List Value) (members : Names) :
    Run Value := do
  let type ← typeOf type bases
  if bases.all (← Run.machine).isType then ofBases type name path bases members
  else Run.raiseType "bases must be types"

/-- The names of a dictionary whose keys are texts. -/
def namesOf (entries : Entries) : Names :=
  entries.filterMap fun
    | (.text id, v) => some (id, v)
    | _ => none

/-- The path of a class may be among its members. -/
def pathOf (name : Text) (members : Names) : Text :=
  match Names.find? "__qualname__" members with
  | some (.text path) => path
  | _ => name

/-- Makes a class from its name, bases and members. -/
def fromParts (type name bases members : Value) : Run Value := do
  let m ← Run.machine
  let refuse (position : Nat) (wanted : Text) (v : Value) : Run Value :=
    Run.raiseType ("type.__new__() argument " ++ Text.ofNat position ++ " must be " ++ wanted
      ++ ", not " ++ m.typeName v)
  match name, bases, m.dict? members with
  | .text name, .tuple bases, some entries =>
    let members := namesOf entries
    let path := pathOf name members
    let members := Names.drop "__qualname__" members
    let members := match Names.find? "__name__" m.globals with
      | some home =>
        if members.has "__module__" then members else Names.put "__module__" home members
      | none => members
    newClass type name path bases members
  | .text _, .tuple _, none => refuse 3 "dict" members
  | .text _, bases, _ => refuse 2 "tuple" bases
  | name, _, _ => refuse 1 "str" name

end LiveConsole.Inheritance
