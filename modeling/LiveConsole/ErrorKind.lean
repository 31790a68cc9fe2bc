/-!
# Kinds of errors

The closed hierarchy of error kinds that peers see by name: those of evaluated code, those of the
socket system and those of the console itself.
-/

set_option autoImplicit false

namespace LiveConsole

inductive ErrorKind where
  | baseException
  | exception
  | arithmeticError
  | zeroDivisionError
  | overflowError
  | floatingPointError
  | assertionError
  | attributeError
  | endOfFileError
  | importError
  | moduleNotFoundError
  | lookupError
  | indexError
  | keyError
  | memoryError
  | nameError
  | unboundLocalError
  | systemError
  | blockingError
  | connectionError
  | brokenPipeError
  | connectionAbortedError
  | connectionRefusedError
  | connectionResetError
  | fileExistsError
  | fileNotFoundError
  | interruptedError
  | permissionError
  | timeoutError
  | addressError
  | runtimeError
  | notImplementedError
  | recursionError
  | stopIteration
  | syntaxError
  | indentationError
  | typeError
  | valueError
  | unicodeError
  | unicodeDecodeError
  | unicodeEncodeError
  | jsonDecodeError
  | warning
  | userWarning
  | generatorExit
  | keyboardInterrupt
  | systemExit
  | replError
  | configError
  | bindError
  | requestError
  | compileError
  | replTimeout
  | frozenInstanceError
deriving DecidableEq

namespace ErrorKind

/-- The name under which an error is reported. -/
def name : ErrorKind → String
  | .baseException => "BaseException"
  | .exception => "Exception"
  | .arithmeticError => "ArithmeticError"
  | .zeroDivisionError => "ZeroDivisionError"
  | .overflowError => "OverflowError"
  | .floatingPointError => "FloatingPointError"
  | .assertionError => "AssertionError"
  | .attributeError => "AttributeError"
  | .endOfFileError => "EOFError"
  | .importError => "ImportError"
  | .moduleNotFoundError => "ModuleNotFoundError"
  | .lookupError => "LookupError"
  | .indexError => "IndexError"
  | .keyError => "KeyError"
  | .memoryError => "MemoryError"
  | .nameError => "NameError"
  | .unboundLocalError => "UnboundLocalError"
  | .systemError => "OSError"
  | .blockingError => "BlockingIOError"
  | .connectionError => "ConnectionError"
  | .brokenPipeError => "BrokenPipeError"
  | .connectionAbortedError => "ConnectionAbortedError"
  | .connectionRefusedError => "ConnectionRefusedError"
  | .connectionResetError => "ConnectionResetError"
  | .fileExistsError => "FileExistsError"
  | .fileNotFoundError => "FileNotFoundError"
  | .interruptedError => "InterruptedError"
  | .permissionError => "PermissionError"
  | .timeoutError => "TimeoutError"
  | .addressError => "gaierror"
  | .runtimeError => "RuntimeError"
  | .notImplementedError => "NotImplementedError"
  | .recursionError => "RecursionError"
  | .stopIteration => "StopIteration"
  | .syntaxError => "SyntaxError"
  | .indentationError => "IndentationError"
  | .typeError => "TypeError"
  | .valueError => "ValueError"
  | .unicodeError => "UnicodeError"
  | .unicodeDecodeError => "UnicodeDecodeError"
  | .unicodeEncodeError => "UnicodeEncodeError"
  | .jsonDecodeError => "JSONDecodeError"
  | .warning => "Warning"
  | .userWarning => "UserWarning"
  | .generatorExit => "GeneratorExit"
  | .keyboardInterrupt => "KeyboardInterrupt"
  | .systemExit => "SystemExit"
  | .replError => "ReplError"
  | .configError => "ConfigError"
  | .bindError => "BindError"
  | .requestError => "RequestError"
  | .compileError => "CompileError"
  | .replTimeout => "ReplTimeout"
  | .frozenInstanceError => "FrozenInstanceError"

/-- The kind directly above. -/
def parent? : ErrorKind → Option ErrorKind
  | .baseException => none
  | .exception | .generatorExit | .keyboardInterrupt | .systemExit => some .baseException
  | .arithmeticError | .assertionError | .attributeError | .endOfFileError | .importError
  | .lookupError | .memoryError | .nameError | .systemError | .runtimeError | .stopIteration
  | .syntaxError | .typeError | .valueError | .warning | .replError => some .exception
  | .zeroDivisionError | .overflowError | .floatingPointError => some .arithmeticError
  | .moduleNotFoundError => some .importError
  | .indexError | .keyError => some .lookupError
  | .unboundLocalError => some .nameError
  | .blockingError | .connectionError | .fileExistsError | .fileNotFoundError
  | .interruptedError | .permissionError | .timeoutError | .addressError => some .systemError
  | .brokenPipeError | .connectionAbortedError | .connectionRefusedError
  | .connectionResetError => some .connectionError
  | .notImplementedError | .recursionError => some .runtimeError
  | .indentationError => some .syntaxError
  | .unicodeError | .jsonDecodeError => some .valueError
  | .unicodeDecodeError | .unicodeEncodeError => some .unicodeError
  | .userWarning => some .warning
  | .configError | .bindError | .requestError | .compileError | .replTimeout => some .replError
  | .frozenInstanceError => some .attributeError

def all : List ErrorKind := [
  .baseException, .exception, .arithmeticError, .zeroDivisionError, .overflowError,
  .floatingPointError, .assertionError, .attributeError, .endOfFileError, .importError,
  .moduleNotFoundError, .lookupError, .indexError, .keyError, .memoryError, .nameError,
  .unboundLocalError, .systemError, .blockingError, .connectionError, .brokenPipeError,
  .connectionAbortedError, .connectionRefusedError, .connectionResetError, .fileExistsError,
  .fileNotFoundError, .interruptedError, .permissionError, .timeoutError, .addressError,
  .runtimeError, .notImplementedError, .recursionError, .stopIteration, .syntaxError,
  .indentationError, .typeError, .valueError, .unicodeError, .unicodeDecodeError,
  .unicodeEncodeError, .jsonDecodeError, .warning, .userWarning, .generatorExit,
  .keyboardInterrupt, .systemExit, .replError, .configError, .bindError, .requestError,
  .compileError, .replTimeout, .frozenInstanceError]

def ofName? (s : String) : Option ErrorKind :=
  all.find? (fun k => k.name = s)

/-- The kind and all kinds above it; no way up is longer than six. -/
def lineage (k : ErrorKind) : List ErrorKind :=
  climb 6 k
where
  climb : Nat → ErrorKind → List ErrorKind
    | 0, k => [k]
    | bound + 1, k => k :: match k.parent? with
      | none => []
      | some p => climb bound p

/-- Whether a kind is another or stands below it. -/
def isA (k ancestor : ErrorKind) : Bool :=
  k.lineage.contains ancestor

/-- Kinds of the socket system that a system call's number selects. -/
def ofErrno? : Int → Option ErrorKind
  | 1 | 13 => some .permissionError
  | 2 => some .fileNotFoundError
  | 4 => some .interruptedError
  | 11 | 114 | 115 => some .blockingError
  | 17 => some .fileExistsError
  | 32 | 108 => some .brokenPipeError
  | 103 => some .connectionAbortedError
  | 104 => some .connectionResetError
  | 110 => some .timeoutError
  | 111 => some .connectionRefusedError
  | _ => none

/-- The kind of a system error with a number. -/
def ofNumber (n : Int) : ErrorKind := (ofErrno? n).getD .systemError

end ErrorKind

end LiveConsole
