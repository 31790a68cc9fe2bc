import LiveConsole.Json.Reader
import LiveConsole.Json.Writer
import LiveConsole.Text.Utf8

/-!
# Messages

One message is one line: a flat object in compact form, encoded as UTF-8 and ended by a newline.
A request asks for the evaluation of an expression; a response greets a peer or tells how an
evaluation went.
-/

set_option autoImplicit false

namespace LiveConsole

namespace Message

/-- Sets a member of a flat object: a name already there keeps its place. -/
def assign (name : Text) (value : Json.Scalar) :
    List (Text × Json.Scalar) → List (Text × Json.Scalar)
  | [] => [(name, value)]
  | (n, v) :: rest =>
    if n = name then (n, value) :: rest else (n, v) :: assign name value rest

/-! Names and values may be of any type `V` whose values have a plain form; `kept?` tells which of
them a message holds as they are. -/

section Flat

variable {V ε : Type} (plain : V → Except ε Text) (kept? : V → Option Json.Scalar)

/-- What is kept stays; anything else is put in its plain form. -/
def scalar (v : V) : Except ε Json.Scalar :=
  match kept? v with
  | some s => .ok s
  | none => return .text (← plain v)

/-- Flattens a message. Names that become equal are merged: first place, last value. -/
def flatten (entries : List (V × V)) : Except ε (List (Text × Json.Scalar)) := do
  let members ← entries.mapM fun (k, v) => do return (← plain k, ← scalar plain kept? v)
  return members.foldl (fun found (n, v) => assign n v found) []

end Flat

/-- The line of a flat message. -/
def line (members : List (Text × Json.Scalar)) : List UInt8 :=
  Utf8.encodeReplacing (Json.writeObject members ++ "\n")

/-- The line of a message. -/
def wire {V ε : Type} (plain : V → Except ε Text) (kept? : V → Option Json.Scalar)
    (entries : List (V × V)) : Except ε (List UInt8) :=
  return line (← flatten plain kept? entries)

/-- Of data, texts and flags are kept. -/
def kept? : Datum → Option Json.Scalar
  | .text t => some (.text t)
  | .flag b => some (.flag b)
  | _ => none

def encode (entries : List (Datum × Datum)) : Except Digits.TooLong (List UInt8) :=
  wire Datum.plain kept? entries

/-- A line ends with its newline. -/
theorem line_eq_append (members : List (Text × Json.Scalar)) :
    line members = Utf8.encodeReplacing (Json.writeObject members) ++ [0x0A] := by
  rw [line, Utf8.encodeReplacing_append]
  rfl

end Message

/-- A request to evaluate an expression. -/
structure Request where
  expression : Text
deriving DecidableEq

namespace Request

/-- Why a line is no request. -/
inductive Refusal where
  | notJson (problem : Json.Problem)
  | notObject
  | unknownType (shown : Text)
  | noExpression
deriving DecidableEq

/-- A line that is not even refused: nesting or a numeral is beyond what can be handled. -/
inductive Breakdown where
  | tooDeep (array : Bool)
  | unwritable (reason : Digits.TooLong)
deriving DecidableEq

inductive Failure where
  | refused (reason : Refusal)
  | broken (how : Breakdown)
deriving DecidableEq

def evaluate : Text := "evaluate"

def isEvaluate : Option Datum → Bool
  | some (.text t) => t == evaluate
  | _ => false

/-- The request of a parsed line. -/
def ofDatum (d : Datum) : Except Failure Request :=
  match d with
  | .dict members =>
    let type := Datum.field? "type" members
    if isEvaluate type then
      match Datum.field? "expression" members with
      | some (.text expression) => .ok ⟨expression⟩
      | _ => .error (.refused .noExpression)
    else
      match (type.getD .null).literal with
      | .ok shown => .error (.refused (.unknownType shown))
      | .error reason => .error (.broken (.unwritable reason))
  | _ => .error (.refused .notObject)

def decode (room : Nat) (line : Text) : Except Failure Request :=
  match Json.read room line with
  | .ok d => ofDatum d
  | .error (.tooDeep array) => .error (.broken (.tooDeep array))
  | .error problem => .error (.refused (.notJson problem))

def members (r : Request) : List (Text × Json.Scalar) :=
  [("type", .text evaluate), ("expression", .text r.expression)]

def encode (r : Request) : List UInt8 :=
  Message.line r.members

def Refusal.message : Refusal → Text
  | .notJson problem => "Invalid JSON: " ++ problem.message
  | .notObject => "Request is not an object"
  | .unknownType shown => "Unknown request type: " ++ shown
  | .noExpression => "Missing or non-string 'expression'"

end Request

/-- A response. A kind other than the greeting's counts as an evaluation result. -/
structure Response where
  kind : Datum
  payload : Datum
  success : Datum

namespace Response

def connectedKind : Text := "connected"

def resultKind : Text := "eval_result"

def connected (banner : Datum) : Response := ⟨.text connectedKind, banner, .flag true⟩

def ok (result : Datum) : Response := ⟨.text resultKind, result, .flag true⟩

def failed (result : Datum) : Response := ⟨.text resultKind, result, .flag false⟩

def isConnected (r : Response) : Bool :=
  match r.kind with
  | .text t => t == connectedKind
  | _ => false

/-- The response as a message. -/
def entries (r : Response) : List (Datum × Datum) :=
  if r.isConnected then [(.text "type", .text connectedKind), (.text "message", r.payload)]
  else
    [(.text "type", .text resultKind), (.text "success", r.success),
      (.text "result", r.payload)]

def encode (r : Response) : Except Digits.TooLong (List UInt8) :=
  Message.encode r.entries

end Response

end LiveConsole
