import LiveConsole.Script.Escape
import LiveConsole.Script.Naming
import LiveConsole.Script.Parsing

/-!
# Grammar of expressions

One parser per rule. Parsers that only explain mistakes stand beside the rule they belong to.
-/

set_option autoImplicit false

namespace LiveConsole.Script.Grammar

open LiveConsole.Script.Parser

variable (g : Rules)

def comma : Parser Token := operator ","

/-- The text of adjacent string literals. -/
def join : (found : Text) → List Token → Parser Text
  | found, [] => pure found
  | found, t :: rest =>
    match t.kind with
    | .string marks body =>
      match Escape.text (marks.contains 'r') body with
      | .ok text => join (found ++ text) rest
      | .error refusal => complainSeen refusal.message
    | _ => miss

def isPlainString : Token.Kind → Bool
  | .string marks _ => !marks.contains 'b' && !marks.contains 'f'
  | _ => false

def strings : Parser Expr := do
  let parts ← several (token isPlainString)
  let text ← join [] parts
  return ⟨(parts.head?.map Token.line).getD 0, .constant (.text text)⟩

def digitValue (c : Char) : Nat :=
  (Escape.hexDigit? c).getD 0

def wholeValue (radix : Nat) (digits : List Char) : Nat :=
  digits.foldl (fun n c => n * radix + digitValue c) 0

def whole (radix : Nat) (digits : List Char) (line : Nat) : Parser Expr :=
  if radix = 10 && digits.length > digitLimit then
    complain (Digits.unreadable digits.length ++ " - Consider hexadecimal for huge integer "
      ++ "literals to avoid decimal conversion limits.") line
  else pure ⟨line, .constant (.int (wholeValue radix digits))⟩

/-- One item, or several that make a tuple; a comma at the end makes a tuple of one. -/
def tupleOr (line : Nat) (first : Expr) (rest : List Expr) (trailing : Option Token) : Expr :=
  if rest.isEmpty && trailing.isNone then first else ⟨line, .tuple (first :: rest)⟩

def oneOrTuple (item : Parser Expr) : Parser Expr := do
  let start ← peek
  let first ← item
  let rest ← many do
    let _ ← comma
    item
  let trailing ← optional comma
  return tupleOr start.line first rest trailing

def listed (item : Parser Expr) : Parser (List Expr) := do
  let items ← separated comma item
  let _ ← optional comma
  return items

/-- An alternation of operators that group to the left. -/
def grouped (ops : List (String × BinaryOp)) (operand : Parser Expr) : Parser Expr := do
  let start ← peek
  let first ← operand
  chain first fun left => do
    let t ← peek
    match t.kind with
    | .operator o =>
      match ops.lookup o with
      | some op =>
        advance
        let right ← operand
        return ⟨start.line, .binary op left right⟩
      | none => miss
    | _ => miss

def bitAnd : Parser Expr :=
  let term := grouped [("*", .multiply), ("/", .divide), ("//", .floorDivide), ("%", .modulo),
    ("@", .matrixMultiply)] (g .factor)
  let sum := grouped [("+", .add), ("-", .subtract)] term
  let shift := grouped [("<<", .shiftLeft), (">>", .shiftRight)] sum
  grouped [("&", .bitAnd)] shift

def bitOr : Parser Expr :=
  grouped [("|", .bitOr)] (grouped [("^", .bitXor)] (bitAnd g))

def starred (value : Parser Expr) : Parser Expr := do
  let star ← operator "*"
  let e ← value
  return ⟨star.line, .starred e⟩

def starNamed : Parser Expr :=
  starred (bitOr g) <|> g .named

def starNameds : Parser (List Expr) :=
  listed (starNamed g)

def starExpression : Parser Expr :=
  starred (bitOr g) <|> g .expression

def starExpressions : Parser Expr :=
  oneOrTuple (starExpression g)

def expressions : Parser Expr :=
  oneOrTuple (g .expression)

def yieldExpression : Parser Expr := do
  let start ← keyword "yield"
  (do
    let _ ← keyword "from"
    let e ← g .expression
    return ⟨start.line, .yieldFrom e⟩)
    <|> do
      let e ← optional (starExpressions g)
      return ⟨start.line, .yield e⟩

def yieldOrStar : Parser Expr :=
  yieldExpression g <|> starExpressions g

def comparison? : Parser CompareOp := do
  let t ← peek
  match t.kind with
  | .operator "==" => do advance; return .equal
  | .operator "!=" => do advance; return .different
  | .operator "<=" => do advance; return .lessEqual
  | .operator "<" => do advance; return .less
  | .operator ">=" => do advance; return .greaterEqual
  | .operator ">" => do advance; return .greater
  | .name "not" => do
    advance
    let _ ← keyword "in"
    return .notMember
  | .name "in" => do advance; return .member
  | .name "is" => do
    advance
    let negated ← optional (keyword "not")
    return if negated.isSome then .notSame else .same
  | _ => miss

def comparison : Parser Expr := do
  let start ← peek
  let first ← bitOr g
  let rest ← many do
    let op ← comparison?
    let right ← bitOr g
    return (op, right)
  return if rest.isEmpty then first else ⟨start.line, .compare first rest⟩

def inversion : Parser Expr :=
  (do
    let start ← keyword "not"
    let e ← g .inversion
    return ⟨start.line, .negation e⟩)
    <|> comparison g

def logical (word : String) (op : LogicalOp) (operand : Parser Expr) : Parser Expr := do
  let start ← peek
  let first ← operand
  let rest ← many do
    let _ ← keyword word
    operand
  return if rest.isEmpty then first else ⟨start.line, .logical op first rest⟩

def disjunction : Parser Expr :=
  logical "or" .or (logical "and" .and (g .inversion))

/-- A value after `=`. -/
def default : Parser Expr :=
  (do
    let _ ← operator "="
    g .expression)
    <|> explaining do
      let sign ← operator "="
      ahead (operator ")" <|> comma)
      complain "expected default value expression" sign.line

def noteOf : Parser Expr := do
  let _ ← operator ":"
  g .expression

/-- How parameter lists are written: what closes them and whether they may be annotated. -/
structure ParamStyle where
  closer : String
  annotated : Bool
  parenthesized : String

def functionParams : ParamStyle :=
  ⟨")", true, "Function parameters cannot be parenthesized"⟩

def lambdaParams : ParamStyle :=
  ⟨":", false, "Lambda expression parameters cannot be parenthesized"⟩

/-- A comma, or the closing sign ahead. -/
def paramEnd (style : ParamStyle) : Parser Unit :=
  (do let _ ← comma) <|> ahead (operator style.closer)

def paramHead (style : ParamStyle) : Parser (Nat × Text × Option Expr) := do
  let (id, line) ← name
  let note ← if style.annotated then optional (noteOf g) else pure none
  return (line, id, note)

def plainParam (style : ParamStyle) : Parser Param := do
  let (line, id, note) ← paramHead g style
  paramEnd style
  return ⟨line, id, note, none⟩

def defaultParam (style : ParamStyle) : Parser Param := do
  let (line, id, note) ← paramHead g style
  let value ← default g
  paramEnd style
  return ⟨line, id, note, some value⟩

def explainParams (style : ParamStyle) : Parser (List Param) :=
  (do
    let _ ← many (plainParam g style)
    let _ ← several (defaultParam g style)
    let p ← plainParam g style
    complain "non-default argument follows default argument" p.line)
    <|> do
      let _ ← many (plainParam g style)
      let opener ← operator "("
      if style.annotated then
        let _ ← several (plainParam g style)
      else
        let _ ← separated comma name
      let _ ← optional comma
      let _ ← operator ")"
      complain style.parenthesized opener.line

def params (style : ParamStyle) : Parser (List Param) :=
  explaining (explainParams g style)
    <|> (do
      let plain ← several (plainParam g style)
      let more ← many (defaultParam g style)
      return plain ++ more)
    <|> several (defaultParam g style)

def lambda : Parser Expr := do
  let start ← keyword "lambda"
  let ps ← optional (params g lambdaParams)
  let _ ← operator ":"
  let body ← g .expression
  return ⟨start.line, .lambda (ps.getD []) body⟩

def assignmentExpression : Parser Expr := do
  let (id, line) ← name
  let _ ← operator ":="
  let value ← g .expression
  return ⟨line, .bind id value⟩

def plainArgument : Parser Argument :=
  (do
    let e ← starred (g .expression)
    return .spread e.line (match e.shape with
      | .starred value => value
      | _ => e))
    <|> do
      let e ← assignmentExpression g <|> (do
        let e ← g .expression
        barring (operator ":=")
        return e)
      barring (operator "=")
      return .positional e

def explainKeyword : Parser Argument :=
  (do
    let word ← keyword "True" <|> keyword "False" <|> keyword "None"
    let _ ← operator "="
    match word.kind with
    | .name n => complain ("cannot assign to " ++ (n : Text)) word.line
    | _ => miss)
    <|> do
      barring do
        let _ ← name
        operator "="
      let e ← g .expression
      let _ ← operator "="
      complain "expression cannot contain assignment, perhaps you meant \"==\"?" e.line

def namedArgument : Parser Argument := do
  let (id, line) ← name
  let _ ← operator "="
  let value ← g .expression
  return .keyword line id value

def keywordOrSpread : Parser Argument :=
  explaining (explainKeyword g)
    <|> namedArgument g
    <|> do
      let star ← operator "*"
      let value ← g .expression
      return .spread star.line value

def keywordOrPairs : Parser Argument :=
  explaining (explainKeyword g)
    <|> namedArgument g
    <|> do
      let stars ← operator "**"
      let value ← g .expression
      return .spreadKeywords stars.line value

def keywords : Parser (List Argument) :=
  (do
    let first ← separated comma (keywordOrSpread g)
    let _ ← comma
    let second ← separated comma (keywordOrPairs g)
    return first ++ second)
    <|> separated comma (keywordOrSpread g)
    <|> separated comma (keywordOrPairs g)

def argumentList : Parser (List Argument) :=
  (do
    let plain ← separated comma (plainArgument g)
    let named ← optional do
      let _ ← comma
      keywords g
    return plain ++ named.getD [])
    <|> keywords g

def spreadsPairs : Argument → Bool
  | .spreadKeywords .. => true
  | _ => false

def explainArguments : Parser (List Argument) :=
  (do
    let start ← peek
    let _ ← argumentList g
    let _ ← comma
    let _ ← operator "*"
    complain "iterable argument unpacking follows keyword argument unpacking" start.line)
    <|> do
      let first ← argumentList g
      let _ ← comma
      let _ ← argumentList g
      complainSeen (if first.any spreadsPairs then
          "positional argument follows keyword argument unpacking"
        else "positional argument follows keyword argument")

def arguments : Parser (List Argument) :=
  (do
    let found ← argumentList g
    let _ ← optional comma
    ahead (operator ")")
    return found)
    <|> explaining (explainArguments g)

def slice : Parser Expr := do
  let start ← peek
  (do
    let lower ← optional (g .expression)
    let _ ← operator ":"
    let upper ← optional (g .expression)
    let step ← optional do
      let _ ← operator ":"
      optional (g .expression)
    return ⟨start.line, .slice lower upper (step.getD none)⟩)
    <|> g .named

def slices : Parser Expr :=
  (do
    let only ← slice g
    barring comma
    return only)
    <|> do
      let start ← peek
      let items ← listed (slice g <|> starred (g .expression))
      return ⟨start.line, .tuple items⟩

def tupleDisplay : Parser Expr := do
  let opener ← operator "("
  let items ← optional do
    let first ← starNamed g
    let _ ← comma
    let rest ← optional (starNameds g)
    return first :: rest.getD []
  let _ ← operator ")"
  return ⟨opener.line, .tuple (items.getD [])⟩

def explainGroup : Parser Expr :=
  (do
    let _ ← operator "("
    let e ← starred (g .expression)
    let _ ← operator ")"
    complain "cannot use starred expression here" e.line)
    <|> do
      let _ ← operator "("
      let stars ← operator "**"
      let _ ← g .expression
      let _ ← operator ")"
      complain "cannot use double starred expression here" stars.line

def group : Parser Expr :=
  (do
    let _ ← operator "("
    let e ← yieldExpression g <|> g .named
    let _ ← operator ")"
    return e)
    <|> explaining (explainGroup g)

def listDisplay : Parser Expr := do
  let opener ← operator "["
  let items ← optional (starNameds g)
  let _ ← operator "]"
  return ⟨opener.line, .list (items.getD [])⟩

def pair : Parser (Option Expr × Expr) :=
  (do
    let _ ← operator "**"
    let e ← bitOr g
    return (none, e))
    <|> do
      let key ← g .expression
      let _ ← operator ":"
      let value ← g .expression
      return (some key, value)

def explainValue {α : Type} : Parser α :=
  (do
    let _ ← g .expression
    let _ ← operator ":"
    let star ← operator "*"
    let _ ← bitOr g
    complain "cannot use a starred expression in a dictionary value" star.line)
    <|> do
      let _ ← g .expression
      let colon ← operator ":"
      ahead (operator "\x7d" <|> comma)
      complain "expression expected after dictionary key and ':'" colon.line

def explainPairs {α : Type} : Parser α :=
  (do
    let _ ← separated comma (pair g)
    let _ ← comma
    (do
      let key ← g .expression
      barring (operator ":")
      complain "':' expected after dictionary key" key.line)
      <|> explainValue g)
    <|> explainValue g

def dictDisplay : Parser Expr :=
  (do
    let opener ← operator "\x7b"
    let entries ← optional do
      let entries ← separated comma (pair g)
      let _ ← optional comma
      return entries
    let _ ← operator "\x7d"
    return ⟨opener.line, .dict (entries.getD [])⟩)
    <|> do
      let _ ← operator "\x7b"
      explainPairs g

/-- Bare items between braces are no display; they are read for the mistakes in them. -/
def bareItems {α : Type} : Parser α := do
  let _ ← operator "\x7b"
  let _ ← starNameds g
  miss

end LiveConsole.Script.Grammar
