import LiveConsole.Console.Language
import LiveConsole.Object.Execution
import LiveConsole.Script.Diagnostic

/-!
# The language of scripts
-/

set_option autoImplicit false

namespace LiveConsole

namespace Scripts

/-- An error of a script: one that was raised, or the diagnostic of a text that does not compile. -/
inductive Trouble where
  | raised (e : Value)
  | uncompiled (diagnostic : Text)

variable {α : Type}

/-- Runs on a machine. -/
def on (m : Machine) (r : Run α) : Except Trouble α × Machine :=
  match r.run.run m with
  | (a, m) => (a.mapError .raised, m)

def builtinsName : Text := "__builtins__"

/-- Runs a program; the first run makes the built-in names a name of their own. -/
def start (m : Machine) (r : Run α) : Except Trouble α × Machine :=
  on (if m.globals.has builtinsName then m
    else { m with globals := Names.put builtinsName (.module .builtins) m.globals }) r

def define (name : Text) (d : Datum) (m : Machine) : Machine :=
  match (Value.ofDatum d).run.run m with
  | (.ok v, m) => { m with globals := Names.put name v m.globals }
  | (.error _, m) => m

/-- Whether an error is of a kind. -/
def isA (kind : ErrorKind) (m : Machine) : Trouble → Bool
  | .raised e => m.isBelow (m.typeOf e) (.kind (.error kind))
  | .uncompiled _ => ErrorKind.syntaxError.isA kind

def message (e : Trouble) (m : Machine) : Except Trouble Value × Machine :=
  match e with
  | .raised e => on m do return .text (← Interpreter.full.plain e)
  | .uncompiled diagnostic => (.ok (.text diagnostic), m)

/-- The name of the kind of an error; the class of its class may give it one. -/
def kindName (e : Trouble) (m : Machine) : Except Trouble Value × Machine :=
  match e with
  | .raised e => on m (Field.read (m.typeOf e) "__name__")
  | .uncompiled _ => (.ok (.text ErrorKind.syntaxError.name), m)

def line (kind message : Value) : Run Value := do
  let kind ← Interpreter.full.plain kind
  return .text (kind ++ ": " ++ (← Interpreter.full.plain message))

def behind (mark : Text) (v : Value) : Run Text := do
  match v with
  | .text t => return mark ++ t
  | v =>
    Run.raiseType ("can only concatenate str (not \"" ++ (← Run.typeName v) ++ "\") to str")

/-- What room is left for a reader that nothing but a short chain of calls has led to. -/
def room : Nat := 993

end Scripts

/-- Scripts cannot make a diagnostic of their own, and have no last words. -/
def scripts : Language where
  room := Scripts.room
  State := Machine
  Code := Script.Program
  Value := Value
  Error := Scripts.Trouble
  compile mode file text m :=
    ((Script.Program.compile mode text).mapError fun c => .uncompiled (c.diagnostic file), m)
  evaluate code m := Scripts.start m code.run
  execute code m := Scripts.start m do
    let _ ← code.run
  literal v m := Scripts.on m (Interpreter.full.literal v)
  message := Scripts.message
  kindName := Scripts.kindName
  holds v m := Scripts.on m (Operation.isTrue v)
  line kind message m := Scripts.on m (Scripts.line kind message)
  behind mark v m := Scripts.on m (Scripts.behind mark v)
  diagnostic? _ _ := none
  isOrdinary := Scripts.isA .exception
  interrupts := Scripts.isA .keyboardInterrupt
  settle := id
  initial := Machine.empty
  names m := m.globals.map Prod.fst
  find? m name := Names.find? name m.globals
  define := Scripts.define

end LiveConsole
