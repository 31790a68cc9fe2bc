import LiveConsole.Console.Language
import LiveConsole.Message

/-!
# Evaluating the texts of peers

A text is compiled as an expression, and if that fails as statements. What was compiled runs once;
the response holds the literal form of the value, or tells what went wrong. Only an error that asks
the console to stop is passed on, and one that comes up while a failure is told.
-/

set_option autoImplicit false

namespace LiveConsole

/-- A namespace in which texts are evaluated, with the file they count as. -/
structure Context (L : Language) where
  file : Text
  state : L.State

namespace Evaluator

variable {L : Language}

def compileErrorMark : Text := "Compile error: "

def runErrorMark : Text := "Error: "

/-- A compiled text and how it is to be run. -/
structure Compiled (L : Language) where
  mode : Script.Mode
  code : L.Code

/-- Why a text is not run: it has a diagnostic, or an error came up that is none of compiling. -/
inductive Failure (L : Language) where
  | diagnosed (diagnostic : L.Value)
  | raised (e : L.Error)

/-- The message of an error of compiling is its diagnostic. -/
def diagnose (e : L.Error) (s : L.State) : Failure L × L.State :=
  match L.message e s with
  | (.ok diagnostic, s) => (.diagnosed diagnostic, s)
  | (.error e, s) => (.raised e, s)

/-- Compiles a text as statements, which is the last attempt. -/
def compileStatements (file text : Text) (s : L.State) :
    Except (Failure L) (Compiled L) × L.State :=
  match L.compile .statements file text s with
  | (.ok code, s) => (.ok ⟨.statements, code⟩, s)
  | (.error e, s) =>
    if L.isOrdinary s e then
      match diagnose e s with
      | (why, s) => (.error why, s)
    else (.error (.raised e), s)

def compile (file text : Text) (s : L.State) : Except (Failure L) (Compiled L) × L.State :=
  match L.compile .expression file text s with
  | (.ok code, s) => (.ok ⟨.expression, code⟩, s)
  | (.error e, s) =>
    if L.isOrdinary s e then compileStatements file text s else (.error (.raised e), s)

/-- Runs a compiled text and gives the literal form of its value; statements have none. -/
def run (u : Compiled L) (s : L.State) : Except L.Error Text × L.State :=
  match u.mode with
  | .expression =>
    match L.evaluate u.code s with
    | (.ok v, s) => L.literal v s
    | (.error e, s) => (.error e, s)
  | .statements =>
    match L.execute u.code s with
    | (.ok (), s) => (.ok "None", s)
    | (.error e, s) => (.error e, s)

/-- The response that tells of a failure, behind a mark. -/
def tell (mark : Text) (v : L.Value) (s : L.State) : Except L.Error Response × L.State :=
  match L.behind mark v s with
  | (.ok t, s) => (.ok (.failed (.text t)), s)
  | (.error e, s) => (.error e, s)

/-- The response to a text that is not run. -/
def refuse (why : Failure L) (s : L.State) : Except L.Error Response × L.State :=
  match why with
  | .diagnosed diagnostic => tell compileErrorMark diagnostic s
  | .raised e =>
    match L.diagnostic? e s with
    | some (.ok diagnostic, s) => tell compileErrorMark diagnostic s
    | some (.error e, s) => (.error e, s)
    | none => (.error e, s)

/-- The response to an error of evaluated code. -/
def fail (e : L.Error) (s : L.State) : Except L.Error Response × L.State :=
  if L.interrupts s e then (.error e, s)
  else
    match L.describe e s with
    | (.ok described, s) => tell runErrorMark described s
    | (.error e, s) => (.error e, s)

/-- The response to a compiled text. -/
def respond (u : Compiled L) (s : L.State) : Except L.Error Response × L.State :=
  match run u s with
  | (.ok shown, s) => (.ok (.ok (.text shown)), s)
  | (.error e, s) => fail e s

def evaluate (c : Context L) (text : Text) : Except L.Error Response × Context L :=
  match compile c.file text c.state with
  | (.error why, s) =>
    match refuse why s with
    | (answer, s) => (answer, { c with state := s })
  | (.ok u, s) =>
    match respond u s with
    | (answer, s) => (answer, { c with state := L.settle s })

/-- What a line can lead to besides a response: it cannot even be decoded, or the code that it asks
for raised an error that is passed on. -/
inductive Escape (L : Language) where
  | broken (how : Request.Breakdown)
  | raised (e : L.Error)

/-- Evaluates the request of a line. Lines that are no requests are ignored. -/
def handleLine (c : Context L) (line : Text) : Except (Escape L) (Option Response) × Context L :=
  if line.isEmpty then (.ok none, c)
  else
    match Request.decode L.room line with
    | .error (.refused _) => (.ok none, c)
    | .error (.broken how) => (.error (.broken how), c)
    | .ok request =>
      match evaluate c request.expression with
      | (.ok r, c) => (.ok (some r), c)
      | (.error e, c) => (.error (.raised e), c)

end Evaluator

namespace Context

variable {L : Language}

def new (file : Text) : Context L := ⟨file, L.initial⟩

def define (name : Text) (value : Datum) (c : Context L) : Context L :=
  { c with state := L.define name value c.state }

def defineAll (values : List (Text × Datum)) (c : Context L) : Context L :=
  values.foldl (fun c (name, value) => c.define name value) c

def has (c : Context L) (name : Text) : Bool :=
  (L.find? c.state name).isSome

/-- The literal form of what a name stands for; none if it stands for nothing. -/
def lookUp? (c : Context L) (name : Text) : Option (Except L.Error Text × Context L) :=
  (L.find? c.state name).map fun v =>
    match L.literal v c.state with
    | (shown, s) => (shown, { c with state := s })

/-- The file and the names, those with two underscores in front left out. -/
def literal (c : Context L) : Text :=
  let names := (L.names c.state).filter fun n => !(Text.ofString "__").isPrefixOf n
  "<EvaluationContext " ++ c.file ++ ": " ++ Text.join ", " names ++ ">"

end Context

end LiveConsole
