import LiveConsole.Datum
import LiveConsole.Script.Grammar

/-!
# Languages

What the console needs of a language: texts are compiled in one of two modes, programs run against a
state, values and errors have texts. Nearly all of this may run code of the language, so that it
changes the state and may fail: also the name of the kind of an error, and a look at whether a message
is empty, for errors and messages can be of classes that the code makes itself.
-/

set_option autoImplicit false

namespace LiveConsole

structure Language where
  /-- How deep arrays and objects of a request may nest inside the outermost: the reader has what room
  the language leaves it. -/
  room : Nat
  State : Type
  Code : Type
  Value : Type
  Error : Type
  /-- Compiles a text that belongs to a file. -/
  compile : Script.Mode → (file text : Text) → State → Except Error Code × State
  evaluate : Code → State → Except Error Value × State
  execute : Code → State → Except Error Unit × State
  /-- The literal form of a value. -/
  literal : Value → State → Except Error Text × State
  message : Error → State → Except Error Value × State
  kindName : Error → State → Except Error Value × State
  /-- Whether a value counts as true. -/
  holds : Value → State → Except Error Bool × State
  /-- The name of a kind and a message, in one line. -/
  line : (kind message : Value) → State → Except Error Value × State
  /-- What comes of a value behind a text counts as a text. -/
  behind : Text → Value → State → Except Error Text × State
  /-- The diagnostic of an error that stands for one of compiling. -/
  diagnostic? : Error → State → Option (Except Error Value × State)
  /-- Whether an error is none that asks for an end. -/
  isOrdinary : State → Error → Bool
  /-- Whether an error asks the console itself to stop. -/
  interrupts : State → Error → Bool
  /-- What becomes of a state when nothing is left of an evaluation: values that are lost can have a
  last word. -/
  settle : State → State
  initial : State
  names : State → List Text
  find? : State → Text → Option Value
  define : Text → Datum → State → State

namespace Language

variable (L : Language)

/-- The name of the kind of an error with its message, unless that is empty. -/
def describe (e : L.Error) (s : L.State) : Except L.Error L.Value × L.State :=
  match L.message e s with
  | (.error e, s) => (.error e, s)
  | (.ok message, s) =>
    match L.kindName e s with
    | (.error e, s) => (.error e, s)
    | (.ok kind, s) =>
      match L.holds message s with
      | (.error e, s) => (.error e, s)
      | (.ok true, s) => L.line kind message s
      | (.ok false, s) => (.ok kind, s)

end Language

end LiveConsole
