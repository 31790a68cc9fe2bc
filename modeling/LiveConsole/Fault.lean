import LiveConsole.Datum
import LiveConsole.ErrorKind

/-!
# Faults

An error as a kind with arguments. Its message follows from the arguments; its description puts
the kind in front of the message.
-/

set_option autoImplicit false

namespace LiveConsole

structure Fault where
  kind : ErrorKind
  args : List Datum

namespace Fault

def isA (f : Fault) (kind : ErrorKind) : Bool :=
  f.kind.isA kind

/-- A fault with a message. -/
def said (kind : ErrorKind) (message : Text) : Fault :=
  ⟨kind, [.text message]⟩

/-- A text was needed of a number that has none. -/
def unwritable (reason : Digits.TooLong) : Fault :=
  said .valueError reason.message

/-- Makes a fault. A system error with a number takes the kind that the number selects; a
compile error needs its diagnostic. -/
def make (kind : ErrorKind) (args : List Datum) : Except Fault Fault :=
  match kind, args with
  | .systemError, .int n :: _ :: rest =>
    .ok ⟨if rest.length ≤ 3 then ErrorKind.ofNumber n else .systemError, args⟩
  | .compileError, [] =>
    .error ⟨.typeError,
      [.text "CompileError.__init__() missing 1 required positional argument: 'diagnostic'"]⟩
  | .compileError, _ :: rest@(_ :: _) =>
    .error ⟨.typeError, [.text ("CompileError.__init__() takes 2 positional arguments but "
      ++ (toString (rest.length + 2) : Text) ++ " were given")]⟩
  | _, _ => .ok ⟨kind, args⟩

/-- How a message is made of arguments. -/
inductive Form where
  | empty
  | nothing
  | plain
  | literal
  | numbered
  | numberedWithFile
  | listed

/-- A lone argument is the message; a key error quotes it. A system error puts its number first.
Other arguments are listed. -/
def form (kind : ErrorKind) (count : Nat) : Form :=
  match count with
  | 0 => if kind.isA .syntaxError then .nothing else .empty
  | 1 => if kind.isA .keyError then .literal else .plain
  | 2 => if kind.isA .systemError then .numbered else .listed
  | n => if kind.isA .systemError && n ≤ 5 then .numberedWithFile else .listed

def message (f : Fault) : Except Digits.TooLong Text :=
  match form f.kind f.args.length, f.args with
  | .nothing, _ => .ok "None"
  | .plain, [arg] => arg.plain
  | .literal, [arg] => arg.literal
  | .numbered, [number, reason] => do
    return "[Errno " ++ (← number.plain) ++ "] " ++ (← reason.plain)
  | .numberedWithFile, number :: reason :: file :: _ => do
    return "[Errno " ++ (← number.plain) ++ "] " ++ (← reason.plain) ++ ": " ++ (← file.literal)
  | .listed, args => (Datum.tuple args).literal
  | _, _ => .ok []

/-- One line that names the kind and, unless it is empty, the message. -/
def describe (f : Fault) : Except Digits.TooLong Text := do
  let message ← f.message
  return if message.isEmpty then f.kind.name else f.kind.name ++ ": " ++ message

end Fault

end LiveConsole
