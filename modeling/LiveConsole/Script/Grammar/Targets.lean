import LiveConsole.Script.Grammar.Primaries

/-!
# Grammar of targets

What can be assigned to or deleted: names, attributes, subscripts, and lists of targets.
-/

set_option autoImplicit false

namespace LiveConsole.Script.Grammar

open LiveConsole.Script.Parser

variable (g : Rules)

/-- A sign after which an expression goes on. -/
def trailerAhead : Parser Token :=
  operator "(" <|> operator "[" <|> operator "."

/-- An expression up to its last trailer, which is still ahead. -/
def targetOwner (line : Nat) : Parser Expr := do
  let first ← atom g
  ahead trailerAhead
  chain first fun e => do
    let e ← trailer g line e
    ahead trailerAhead
    return e

/-- An attribute or subscript that ends the expression. -/
def memberTarget : Parser Expr := do
  let start ← peek
  let owner ← targetOwner g start.line
  let t ← peek
  match t.kind with
  | .operator "(" => miss
  | _ =>
    let e ← trailer g start.line owner
    barring trailerAhead
    return e

def nameTarget : Parser Expr := do
  let (id, line) ← name
  return ⟨line, .name id⟩

def singleTarget : Parser Expr :=
  memberTarget g
    <|> nameTarget
    <|> do
      let _ ← operator "("
      let e ← g .singleTarget
      let _ ← operator ")"
      return e

def starTarget : Parser Expr :=
  (do
    let star ← operator "*"
    barring (operator "*")
    let e ← g .starTarget
    return ⟨star.line, .starred e⟩)
    <|> g .atomTarget

/-- At least two targets, or one with a comma. -/
def targetTuple : Parser (List Expr) := do
  let first ← g .starTarget
  let rest ← many do
    let _ ← comma
    g .starTarget
  let trailing ← optional comma
  if rest.isEmpty && trailing.isNone then miss else return first :: rest

def bracketed (opener closer : String) (items : Parser (List Expr)) :
    Parser (Nat × List Expr) := do
  let start ← operator opener
  let found ← optional items
  let _ ← operator closer
  return (start.line, found.getD [])

def atomTarget : Parser Expr :=
  memberTarget g
    <|> nameTarget
    <|> (do
      let _ ← operator "("
      let e ← g .atomTarget
      let _ ← operator ")"
      return e)
    <|> (do
      let (line, items) ← bracketed "(" ")" (targetTuple g)
      return ⟨line, .tuple items⟩)
    <|> do
      let (line, items) ← bracketed "[" "]" (listed (g .starTarget))
      return ⟨line, .list items⟩

def deleteTargets : Parser (List Expr) :=
  listed (g .deleteTarget)

def deleteTarget : Parser Expr :=
  memberTarget g
    <|> nameTarget
    <|> (do
      let _ ← operator "("
      let e ← g .deleteTarget
      let _ ← operator ")"
      return e)
    <|> (do
      let (line, items) ← bracketed "(" ")" (deleteTargets g)
      return ⟨line, .tuple items⟩)
    <|> do
      let (line, items) ← bracketed "[" "]" (deleteTargets g)
      return ⟨line, .list items⟩

/-- A list or tuple where one annotated target should stand. -/
def annotationTarget : Parser Expr :=
  listDisplay g
    <|> tupleDisplay g
    <|> do
      let _ ← operator "("
      let e ← g .annotationTarget
      let _ ← operator ")"
      return e

end LiveConsole.Script.Grammar
