import LiveConsole.Number.Shortest
import LiveConsole.Text.Quoted
import LiveConsole.Object.Interpreter

/-!
# Values as text

Every value has a literal form and a plain form; in the plain form a text stands for itself and an
error for its message. Objects may define both themselves. A container inside itself is left out.
-/

set_option autoImplicit false

namespace LiveConsole

/-- How a value is written. -/
inductive Form where
  | literal
  | plain
deriving DecidableEq

namespace Shown

/-- How deeply values may be nested to be written. -/
def depthLimit : Nat := 990

def ofClass (c : Class) (members : Names) : Text :=
  match Names.find? "__module__" members with
  | some (.text module) =>
    if module = Text.ofString "builtins" then "<class '" ++ c.path ++ "'>"
    else "<class '" ++ module ++ "." ++ c.path ++ "'>"
  | _ => "<class '" ++ c.path ++ "'>"

/-- Calls a member of a class as a method of an object. -/
def callMember (i : Interpreter) (member self : Value) (args : List Value) : Run Value := do
  match (← Run.machine).typeOf member with
  | .kind .function => i.call member (self :: args) []
  | _ => i.call member args []

/-- What an object says of itself must be a text. -/
def own (i : Interpreter) (name : String) (member self : Value) : Run Text := do
  let v ← callMember i member self []
  match v with
  | .text t => return t
  | v =>
    Run.raiseType ((name : Text) ++ " returned non-string (type " ++ (← Run.typeName v) ++ ")")

/-- The member by which an object writes itself. In the plain form its own `__str__` comes first;
errors have a plain form of their own. -/
def member? (m : Machine) (form : Form) (type : Value) : Option (String × Value) :=
  let find : String → Option (String × Value) := fun id =>
    (m.member? type id).map fun v => (id, v)
  match form with
  | .literal => find "__repr__"
  | .plain =>
    (find "__str__").or (if (m.errorKind? type).isSome then none else find "__repr__")

/-- Lists the written members of a container. -/
def each (write : Value → Run Text) : List Value → List Text → Run (List Text)
  | [], found => return found.reverse
  | v :: rest, found => do
    let t ← write v
    each write rest (t :: found)

def entry (write : Value → Run Text) (e : Value × Value) : Run Text := do
  let key ← write e.1
  let value ← write e.2
  return key ++ ": " ++ value

def entries (write : Value → Run Text) : Entries → List Text → Run (List Text)
  | [], found => return found.reverse
  | e :: rest, found => do
    let t ← entry write e
    entries write rest (t :: found)

def ofTuple (texts : List Text) : Text :=
  match texts with
  | [only] => "(" ++ only ++ ",)"
  | texts => "(" ++ Text.join ", " texts ++ ")"

/-- A container that is being written already is left out. -/
def guarded (a : Address) (shortened : String) (r : Run Text) : Run Text := do
  if (← Run.machine).showing.contains a then return shortened
  else Run.showing a r

/-- The message of an error. -/
def message (write : Form → Value → Run Text) (kind : ErrorKind) (args : List Value) :
    Run Text := do
  match Fault.form kind args.length, args with
  | .nothing, _ => return "None"
  | .plain, [arg] => write .plain arg
  | .literal, [arg] => write .literal arg
  | .numbered, [number, reason] =>
    let number ← write .plain number
    return "[Errno " ++ number ++ "] " ++ (← write .plain reason)
  | .numberedWithFile, number :: reason :: file :: _ =>
    let number ← write .plain number
    let reason ← write .plain reason
    return "[Errno " ++ number ++ "] " ++ reason ++ ": " ++ (← write .literal file)
  | .listed, args => return ofTuple (← each (write .literal) args [])
  | _, _ => return []

/-- An error as it is made: its class and its arguments. -/
def construction (write : Form → Value → Run Text) (name : Text) (args : List Value) :
    Run Text := do
  let texts ← each (write .literal) args []
  return name ++ "(" ++ Text.join ", " texts ++ ")"

/-- The text of a cell whose object does not write itself. -/
def ofCell (write : Form → Value → Run Text) (form : Form) (a : Address) (cell : Cell) :
    Run Text := do
  match cell with
  | .list items =>
    guarded a "[...]" do
      let texts ← each (write .literal) items.toList []
      return "[" ++ Text.join ", " texts ++ "]"
  | .dict es =>
    guarded a "\x7b...\x7d" do
      let texts ← entries (write .literal) es []
      return "\x7b" ++ Text.join ", " texts ++ "\x7d"
  | .function f _ => return "<function " ++ f.path ++ ">"
  | .class c members => return ofClass c members
  | .instance of _ => return "<" ++ (← Run.machine).nameOf (.ref of) ++ " object>"
  | .error of args _ =>
    let m ← Run.machine
    if form = .plain then message write ((m.errorKind? of).getD .exception) args
    else construction write (m.nameOf of) args
  | .settings d =>
    let texts ← each (write .literal) (Setting.all.map d) []
    let fields : List Text := (Setting.all.zip texts).map fun (s, t) => s.name ++ "=" ++ t
    return "ReplConfig(" ++ Text.join ", " fields ++ ")"
  | .frame _ | .names _ => return []

def write (i : Interpreter) : (bound : Nat) → Form → Value → Run Text
  | 0, _, _ =>
    Run.raise .recursionError
      "maximum recursion depth exceeded while getting the repr of an object"
  | bound + 1, form, v => do
    let write := write i bound
    match v with
    | .none => return "None"
    | .ellipsis => return "Ellipsis"
    | .notImplemented => return "NotImplemented"
    | .flag b => return if b then "True" else "False"
    | .int n => Run.ofWritten (Digits.write n)
    | .float x => return Shortest.write Shortest.layout x
    | .text t => return if form = .plain then t else t.quoted
    | .octets bs => return Quoted.ofOctets bs
    | .tuple items => return ofTuple (← each (write .literal) items [])
    | .range start stop step =>
      let first ← Run.ofWritten (Digits.write start)
      let last ← Run.ofWritten (Digits.write stop)
      if step = 1 then return "range(" ++ first ++ ", " ++ last ++ ")"
      else
        return "range(" ++ first ++ ", " ++ last ++ ", " ++ (← Run.ofWritten (Digits.write step))
          ++ ")"
    | .slice lower upper step =>
      return "slice(" ++ Text.join ", " (← each (write .literal) [lower, upper, step] []) ++ ")"
    | .kind k => return "<class '" ++ (k.name : Text) ++ "'>"
    | .builtin f => return "<built-in function " ++ (f.name : Text) ++ ">"
    | .method m _ =>
      return "<built-in method " ++ (m.name : Text) ++ " of " ++ (m.kind.name : Text) ++ " object>"
    | .descriptor m =>
      return "<method '" ++ (m.name : Text) ++ "' of '" ++ (m.kind.name : Text) ++ "' objects>"
    | .bound f _ => return "<bound method " ++ (← write .plain f) ++ ">"
    | .view part a =>
      let m ← Run.machine
      let shown := ((m.dict? (.ref a)).getD []).map (Cursor.shown part)
      guarded a "..." do
        let texts ← each (write .literal) shown []
        return (part.kind.name : Text) ++ "([" ++ Text.join ", " texts ++ "])"
    | .module m => return "<module '" ++ (m.name : Text) ++ "' (built-in)>"
    | .number _ n =>
      match member? (← Run.machine) form (← Run.typeOf v) with
      | some (name, member) => own i name member v
      | none => Run.ofWritten (Digits.write n)
    | .ref a =>
      let m ← Run.machine
      match m.cell? a with
      | none => return []
      | some cell =>
        match member? m form (m.typeOf v) with
        | some (name, member) => own i name member v
        | none => ofCell write form a cell

end Shown

namespace Interpreter

def literal (i : Interpreter) (v : Value) : Run Text :=
  Shown.write i Shown.depthLimit .literal v

def plain (i : Interpreter) (v : Value) : Run Text :=
  Shown.write i Shown.depthLimit .plain v

end Interpreter

end LiveConsole
