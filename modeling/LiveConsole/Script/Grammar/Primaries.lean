import LiveConsole.Script.Grammar.Expressions

/-!
# Grammar of atoms and what follows them

Names, literals and displays, with attributes, calls and subscripts behind them; then the rules
that make whole expressions.
-/

set_option autoImplicit false

namespace LiveConsole.Script.Grammar

open LiveConsole.Script.Parser

variable (g : Rules)

/-- Targets with commas between them, as one target. -/
def starTargets : Parser Expr := do
  let start ← peek
  (do
    let only ← g .starTarget
    barring comma
    return only)
    <|> do
      let items ← listed (g .starTarget)
      return ⟨start.line, .tuple items⟩

def complainMisplaced {α : Type} (purpose : Purpose) (e : Expr) : Parser α :=
  match e.misplaced? purpose with
  | some bad =>
    let verb : Text := if purpose = .delete then "cannot delete " else "cannot assign to "
    complain (verb ++ (bad.kindName : Text)) bad.line
  | none => miss

def explainLoopTarget {α : Type} : Parser α := do
  let _ ← keyword "for"
  let e ← starExpressions g
  complainMisplaced .loop e

def clause : Parser Clause :=
  commit
    (do
      let _ ← keyword "for"
      let target ← starTargets g
      let _ ← keyword "in"
      return target)
    (fun target => do
      let source ← g .disjunction
      let conditions ← many do
        let _ ← keyword "if"
        g .disjunction
      return ⟨target, source, conditions⟩)
    (explaining (explainLoopTarget g))

def explainComprehension : Parser Expr :=
  (do
    let _ ← operator "["
    let e ← starred (g .expression)
    let _ ← several (clause g)
    complain "iterable unpacking cannot be used in comprehension" e.line)
    <|> (do
      let _ ← operator "["
      let e ← starNamed g
      let _ ← comma
      let _ ← optional (starNameds g)
      let _ ← several (clause g)
      complain "did you forget parentheses around the comprehension target?" e.line)

def listComprehension : Parser Expr :=
  (do
    let opener ← operator "["
    let item ← g .named
    let clauses ← several (clause g)
    let _ ← operator "]"
    return ⟨opener.line, .comprehension item clauses⟩)
    <|> explaining (explainComprehension g)

def atom : Parser Expr := do
  let t ← peek
  match t.kind with
  | .name "True" => do advance; return ⟨t.line, .constant (.flag true)⟩
  | .name "False" => do advance; return ⟨t.line, .constant (.flag false)⟩
  | .name "None" => do advance; return ⟨t.line, .constant .none⟩
  | .name _ => do
    let (id, line) ← name
    return ⟨line, .name id⟩
  | .string .. => strings
  | .whole radix digits => do
    advance
    whole radix digits t.line
  | .real x => do advance; return ⟨t.line, .constant (.float x)⟩
  | .operator "(" => tupleDisplay g <|> group g
  | .operator "[" => listDisplay g <|> listComprehension g
  | .operator "\x7b" => dictDisplay g <|> bareItems g
  | .operator "..." => do advance; return ⟨t.line, .constant .ellipsis⟩
  | _ => miss

def isNamed : Argument → Bool
  | .keyword .. | .spreadKeywords .. => true
  | _ => false

/-- Arguments in the order of their evaluation: the named ones come last. -/
def inOrder (found : List Argument) : List Argument :=
  found.filter (!isNamed ·) ++ found.filter isNamed

/-- An attribute, a call or a subscript behind an expression. -/
def trailer (line : Nat) (e : Expr) : Parser Expr := do
  let t ← peek
  match t.kind with
  | .operator "." => do
    advance
    let (id, _) ← name
    return ⟨line, .field e id⟩
  | .operator "(" => do
    advance
    let found ← optional (g .arguments)
    let _ ← operator ")"
    return ⟨line, .call e (inOrder (found.getD []))⟩
  | .operator "[" => do
    advance
    let index ← slices g
    let _ ← operator "]"
    return ⟨line, .subscript e index⟩
  | _ => miss

def primary : Parser Expr := do
  let start ← peek
  let first ← atom g
  chain first (trailer g start.line)

def awaited : Parser Expr :=
  (do
    let start ← keyword "await"
    let e ← primary g
    return ⟨start.line, .await e⟩)
    <|> primary g

def power : Parser Expr := do
  let start ← peek
  let base ← awaited g
  let exponent ← optional do
    let _ ← operator "**"
    g .factor
  return match exponent with
    | some e => ⟨start.line, .binary .power base e⟩
    | none => base

def sign? : Parser UnaryOp := do
  let t ← peek
  match t.kind with
  | .operator "+" => do advance; return .affirm
  | .operator "-" => do advance; return .negate
  | .operator "~" => do advance; return .invert
  | _ => miss

def factor : Parser Expr := do
  let start ← peek
  (do
    let op ← sign?
    let e ← g .factor
    return ⟨start.line, .unary op e⟩)
    <|> power g

def plainExpression : Parser Expr := do
  let start ← peek
  (do
    let yes ← g .disjunction
    let branch ← optional do
      let _ ← keyword "if"
      let test ← g .disjunction
      let _ ← keyword "else"
      let no ← g .expression
      return (test, no)
    return match branch with
      | some (test, no) => ⟨start.line, .conditional test yes no⟩
      | none => yes)
    <|> lambda g

def isSoftKeyword (s : String) : Bool :=
  ["_", "case", "match"].contains s

def isString : Token.Kind → Bool
  | .string .. => true
  | _ => false

/-- A name before a string, or a word with a meaning of its own in some places. -/
def wordBefore : Parser Unit :=
  (do
    let _ ← name
    let _ ← token isString)
    <|> do
      let _ ← token fun
        | .name n => isSoftKeyword n
        | _ => false

def explainExpression : Parser Expr :=
  commit
    (do
      barring wordBefore
      let left ← g .disjunction
      let _ ← silently (plainExpression g)
      return left)
    (fun left => do
      let depth ← depthBefore
      if left.isLegacyName || depth = 0 then miss
      else complain "invalid syntax. Perhaps you forgot a comma?" left.line)
    (do
      let left ← g .disjunction
      let _ ← keyword "if"
      let _ ← g .disjunction
      barring (keyword "else" <|> operator ":")
      complain "expected 'else' after 'if' expression" left.line)

def explainLegacy : Parser Expr := do
  let (id, line) ← name
  barring (operator "(")
  let _ ← starExpressions g
  if (Expr.mk line (.name id)).isLegacyName then
    complain ("Missing parentheses in call to '" ++ id ++ "'. Did you mean " ++ id ++ "(...)?") line
  else miss

def expression : Parser Expr :=
  explaining (explainExpression g <|> explainLegacy g) <|> plainExpression g

def mistakenEquals : Text :=
  "invalid syntax. Maybe you meant '==' or ':=' instead of '='?"

def explainNamed : Parser Expr :=
  (do
    let e ← g .expression
    let _ ← operator ":="
    let _ ← g .expression
    complain ("cannot use assignment expressions with " ++ (e.kindName : Text)) e.line)
    <|> (do
      let (_, line) ← name
      let _ ← operator "="
      let _ ← bitOr g
      barring (operator "=" <|> operator ":=")
      complain mistakenEquals line)
    <|> do
      barring (listDisplay g <|> tupleDisplay g <|> do
        let t ← keyword "True" <|> keyword "None" <|> keyword "False"
        return ⟨t.line, .constant .none⟩)
      let e ← bitOr g
      let _ ← operator "="
      let _ ← bitOr g
      barring (operator "=" <|> operator ":=")
      complain ("cannot assign to " ++ (e.kindName : Text)
        ++ " here. Maybe you meant '==' instead of '='?") e.line

def named : Parser Expr :=
  assignmentExpression g
    <|> explaining (explainNamed g)
    <|> do
      let e ← g .expression
      barring (operator ":=")
      return e

end LiveConsole.Script.Grammar
