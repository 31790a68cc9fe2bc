import LiveConsole.Script.Grammar.Targets

/-!
# Grammar of statements

Simple statements share a line; compound ones own blocks.
-/

set_option autoImplicit false

namespace LiveConsole.Script.Grammar

open LiveConsole.Script.Parser

variable (g : Rules)

def updateOps : List (String × BinaryOp) := [
  ("+=", .add), ("-=", .subtract), ("*=", .multiply), ("@=", .matrixMultiply), ("/=", .divide),
  ("%=", .modulo), ("&=", .bitAnd), ("|=", .bitOr), ("^=", .bitXor), ("<<=", .shiftLeft),
  (">>=", .shiftRight), ("**=", .power), ("//=", .floorDivide)]

def updateOp : Parser BinaryOp := do
  let t ← peek
  match t.kind with
  | .operator o =>
    match updateOps.lookup o with
    | some op =>
      advance
      return op
    | none => miss
  | _ => miss

/-- The annotation and the value, if any, of an annotated target. -/
def annotated (line : Nat) (target : Expr) (simple : Bool) : Parser Stmt := do
  let note ← noteOf g
  let value ← optional do
    let _ ← operator "="
    yieldOrStar g
  return ⟨line, .annotate target note value simple⟩

/-- A target and the equals sign behind it. -/
def targetEquals : Parser Expr := do
  let e ← starTargets g
  let _ ← operator "="
  return e

def explainAssignment : Parser Stmt :=
  (do
    let e ← g .annotationTarget
    let _ ← noteOf g
    complain ("only single target (not " ++ (e.kindName : Text) ++ ") can be annotated") e.line)
    <|> (do
      let e ← starNamed g
      let _ ← comma
      let _ ← many (starNameds g)
      let _ ← noteOf g
      complain "only single target (not tuple) can be annotated" e.line)
    <|> (do
      let e ← g .expression
      let _ ← noteOf g
      complain "illegal target for annotation" e.line)
    <|> commit
      (do
        let _ ← many (targetEquals g)
        let e ← starExpressions g
        let _ ← operator "="
        return e)
      (complainMisplaced .assign)
      ((do
        let _ ← many (targetEquals g)
        let e ← yieldExpression g
        let _ ← operator "="
        complain "assignment to yield expression not possible" e.line)
        <|> do
          let e ← starExpressions g
          let _ ← updateOp
          let _ ← yieldOrStar g
          complain ("'" ++ (e.kindName : Text)
            ++ "' is an illegal expression for augmented assignment") e.line)

def assignment : Parser Stmt := do
  let start ← peek
  (do
    let e ← nameTarget
    annotated g start.line e true)
    <|> (do
      let e ← (do
        let _ ← operator "("
        let e ← g .singleTarget
        let _ ← operator ")"
        return e) <|> memberTarget g
      annotated g start.line e false)
    <|> (do
      let targets ← several (targetEquals g)
      let value ← yieldOrStar g
      barring (operator "=")
      return ⟨start.line, .assign targets value⟩)
    <|> commit
      (do
        let target ← g .singleTarget
        let op ← updateOp
        return (target, op))
      (fun (target, op) => do
        let value ← yieldOrStar g
        return ⟨start.line, .update target op value⟩)
      (explaining (explainAssignment g))

def names : Parser (List Text) := do
  let found ← separated comma name
  return found.map Prod.fst

def deletion (line : Nat) : Parser Stmt :=
  (do
    let _ ← keyword "del"
    let targets ← deleteTargets g
    ahead (operator ";" <|> newline)
    return ⟨line, .delete targets⟩)
    <|> explaining do
      let _ ← keyword "del"
      let e ← starExpressions g
      complainMisplaced .delete e

def raising (line : Nat) : Parser Stmt := do
  let _ ← keyword "raise"
  let error ← optional (g .expression)
  match error with
  | none => return ⟨line, .raise none none⟩
  | some e =>
    let cause ← optional do
      let _ ← keyword "from"
      g .expression
    return ⟨line, .raise (some e) cause⟩

def assertion (line : Nat) : Parser Stmt := do
  let _ ← keyword "assert"
  let test ← g .expression
  let message ← optional do
    let _ ← comma
    g .expression
  return ⟨line, .assert test message⟩

/-- A simple statement that a keyword begins. -/
def keywordStatement (t : Token) : Parser Stmt :=
  match t.kind with
  | .name "return" => do
    advance
    let value ← optional (starExpressions g)
    return ⟨t.line, .return value⟩
  | .name "raise" => raising g t.line
  | .name "pass" => do advance; return ⟨t.line, .pass⟩
  | .name "del" => deletion g t.line
  | .name "yield" => do
    let e ← yieldExpression g
    return ⟨t.line, .expression e⟩
  | .name "assert" => assertion g t.line
  | .name "break" => do advance; return ⟨t.line, .break⟩
  | .name "continue" => do advance; return ⟨t.line, .continue⟩
  | .name "global" => do
    advance
    let found ← names
    return ⟨t.line, .global found⟩
  | .name "nonlocal" => do
    advance
    let found ← names
    return ⟨t.line, .nonlocal found⟩
  | _ => miss

def simpleStatement : Parser Stmt :=
  assignment g
    <|> do
      let t ← peek
      (do
        let e ← starExpressions g
        return ⟨t.line, .expression e⟩)
        <|> keywordStatement g t

def simpleStatements : Parser (List Stmt) := do
  let found ← separated (operator ";") (simpleStatement g)
  let _ ← optional (operator ";")
  let _ ← newline
  return found

/-- A line end that opens no block. -/
def missingBlock : Parser Unit := do
  let _ ← newline
  barring indent

def expectedBlock {α : Type} (owner : Text) (line : Nat) : Parser α :=
  complainSeen ("expected an indented block after " ++ owner ++ " on line " ++ Text.ofNat line)

/-- Explains a block that is missing after a heading. -/
def explainBlock {α : Type} (owner : Text) (heading : Parser Token) : Parser α := do
  let head ← heading
  let _ ← operator ":"
  missingBlock
  expectedBlock owner head.line

/-- Explains a colon that is missing after a heading. -/
def explainColon {α : Type} (heading : Parser Token) : Parser α := do
  let _ ← heading
  let _ ← newline
  complainSeen "expected ':'"

def otherwise : Parser (List Stmt) :=
  explaining (explainBlock "'else' statement" (keyword "else"))
    <|> do
      let _ ← keyword "else"
      let _ ← demand ":"
      g .block

/-- What may follow the body of a conditional statement. -/
def alternatives : Parser (List Stmt) := do
  let found ← optional (g .alternative <|> otherwise g)
  return found.getD []

def tested (word : String) : Parser Token := do
  let head ← keyword word
  let _ ← g .named
  return head

def explainTested {α : Type} (word : String) : Parser α :=
  explainColon (tested g word)
    <|> explainBlock ("'" ++ (word : Text) ++ "' statement") (tested g word)

def conditional (word : String) : Parser Stmt :=
  explaining (explainTested g word)
    <|> do
      let head ← keyword word
      let test ← g .named
      let _ ← operator ":"
      let body ← g .block
      let rest ← alternatives g
      return ⟨head.line, .when test body rest⟩

def alternative : Parser (List Stmt) := do
  let s ← conditional g "elif"
  return [s]

def optionalElse : Parser (List Stmt) := do
  let found ← optional (otherwise g)
  return found.getD []

def whileLoop : Parser Stmt :=
  explaining (explainTested g "while")
    <|> do
      let head ← keyword "while"
      let test ← g .named
      let _ ← operator ":"
      let body ← g .block
      let rest ← optionalElse g
      return ⟨head.line, .while test body rest⟩

def forHeading : Parser Token := do
  let head ← keyword "for"
  let _ ← starTargets g
  let _ ← keyword "in"
  let _ ← starExpressions g
  return head

def forLoop : Parser Stmt :=
  explaining (explainColon (forHeading g) <|> explainBlock "'for' statement" (forHeading g))
    <|> commit
      (do
        let head ← keyword "for"
        let target ← starTargets g
        let _ ← keyword "in"
        return (head, target))
      (fun (head, target) => do
        let source ← starExpressions g
        let _ ← operator ":"
        let body ← g .block
        let rest ← optionalElse g
        return ⟨head.line, .for target source body rest⟩)
      (explaining (explainLoopTarget g))

def newName : Parser Text := do
  let _ ← keyword "as"
  let (id, _) ← name
  return id

def exceptHeading : Parser Token := do
  let head ← keyword "except"
  let _ ← optional do
    let _ ← g .expression
    optional newName
  return head

def explainExcept : Parser Handler :=
  (do
    let _ ← keyword "except"
    let e ← g .expression
    let _ ← comma
    let _ ← expressions g
    let _ ← optional newName
    let _ ← operator ":"
    complain "multiple exception types must be parenthesized" e.line)
    <|> explainColon (exceptHeading g)

def handler : Parser Handler :=
  explaining (explainBlock "'except' statement" (exceptHeading g))
    <|> (do
      let head ← keyword "except"
      let kind ← optional (g .expression)
      let id ← if kind.isSome then optional newName else pure none
      let _ ← operator ":"
      let body ← g .block
      return ⟨head.line, kind, id, body⟩)
    <|> explaining (explainExcept g)

def finalBlock : Parser (List Stmt) :=
  explaining (explainBlock "'finally' statement" (keyword "finally"))
    <|> do
      let _ ← keyword "finally"
      let _ ← demand ":"
      g .block

def explainTry : Parser Stmt :=
  explainBlock "'try' statement" (keyword "try")
    <|> do
      let _ ← keyword "try"
      let _ ← operator ":"
      let _ ← g .block
      barring (keyword "except" <|> keyword "finally")
      complainSeen "expected 'except' or 'finally' block"

def tryStatement : Parser Stmt :=
  explaining (explainTry g)
    <|> do
      let head ← keyword "try"
      let _ ← demand ":"
      let body ← g .block
      (do
        let final ← finalBlock g
        return ⟨head.line, .try body [] [] final⟩)
        <|> do
          let handlers ← several (handler g)
          let rest ← optionalElse g
          let final ← optional (finalBlock g)
          return ⟨head.line, .try body handlers rest (final.getD [])⟩

def explainFunction : Parser Stmt :=
  explainBlock "function definition" do
    let head ← keyword "def"
    let _ ← name
    let _ ← operator "("
    let _ ← optional (params g functionParams)
    let _ ← operator ")"
    let _ ← optional do
      let _ ← operator "->"
      g .expression
    return head

def functionDefinition : Parser Stmt :=
  explaining (explainFunction g)
    <|> do
      let head ← keyword "def"
      let (id, _) ← name
      let _ ← demand "("
      let ps ← optional (params g functionParams)
      let _ ← operator ")"
      let result ← optional do
        let _ ← operator "->"
        g .expression
      let _ ← demand ":"
      let body ← g .block
      return ⟨head.line, .function id (ps.getD []) result body⟩

def bases : Parser (List Argument) := do
  let found ← optional do
    let _ ← operator "("
    let found ← optional (g .arguments)
    let _ ← operator ")"
    return found.getD []
  return found.getD []

def classHeading : Parser Token := do
  let head ← keyword "class"
  let _ ← name
  let _ ← bases g
  return head

def classDefinition : Parser Stmt :=
  explaining (explainColon (classHeading g) <|> explainBlock "class definition" (classHeading g))
    <|> do
      let head ← keyword "class"
      let (id, _) ← name
      let found ← bases g
      let _ ← operator ":"
      let body ← g .block
      return ⟨head.line, .class id (inOrder found) body⟩

def compoundStatement : Parser Stmt := do
  let t ← peek
  match t.kind with
  | .name "def" => functionDefinition g
  | .name "if" => conditional g "if"
  | .name "class" => classDefinition g
  | .name "for" => forLoop g
  | .name "try" => tryStatement g
  | .name "while" => whileLoop g
  | _ => miss

def statement : Parser (List Stmt) :=
  (do
    let s ← compoundStatement g
    return [s])
    <|> simpleStatements g

def block : Parser (List Stmt) :=
  (do
    let _ ← newline
    let _ ← indent
    let body ← several (statement g)
    let _ ← dedent
    return body.flatten)
    <|> simpleStatements g
    <|> explaining do
      missingBlock
      complainSeen "expected an indented block"

def statements : Parser Program := do
  let body ← many (statement g)
  let _ ← finish
  return .statements body.flatten

def soleExpression : Parser Program := do
  let e ← expressions g
  let _ ← many newline
  let _ ← finish
  return .expression e

end LiveConsole.Script.Grammar
