import LiveConsole.Script.Grammar.Statements

/-!
# The grammar of scripts

Ties the rules together and reads a text as an expression or as statements.
-/

set_option autoImplicit false

namespace LiveConsole.Script

namespace Grammar

/-- The parser of each rule in terms of all. -/
def rules (g : Rules) : Rules
  | .expression => expression g
  | .named => named g
  | .disjunction => disjunction g
  | .inversion => inversion g
  | .factor => factor g
  | .arguments => arguments g
  | .singleTarget => singleTarget g
  | .annotationTarget => annotationTarget g
  | .starTarget => starTarget g
  | .atomTarget => atomTarget g
  | .deleteTarget => deleteTarget g
  | .alternative => alternative g
  | .block => block g

/-- How deeply rules may be nested. -/
def depthLimit : Nat := 2960

def tied : Rules :=
  Rules.knot rules depthLimit

end Grammar

/-- Whether a script is a single expression or a sequence of statements. -/
inductive Mode where
  | expression
  | statements
deriving DecidableEq

namespace Source

/-- Line ends of all kinds become line feeds; `found` holds what was read, last first. -/
def unifyLineEnds (found : List Char) : List Char → List Char
  | '\r' :: '\n' :: rest => unifyLineEnds ('\n' :: found) rest
  | '\r' :: rest => unifyLineEnds ('\n' :: found) rest
  | c :: rest => unifyLineEnds (c :: found) rest
  | [] => found.reverse

/-- The last line ends with a line feed. -/
def endLastLine (cs : List Char) : List Char :=
  if cs.getLast? = some '\n' then cs else cs ++ ['\n']

end Source

namespace Program

/-- The tree of a script without lone surrogates and null characters. -/
def ofChars (mode : Mode) (cs : List Char) : Except Complaint Program :=
  let tokens := Tokens.ofChars (Source.endLastLine (Source.unifyLineEnds [] cs))
  match mode with
  | .expression => tokens.parse (Grammar.soleExpression Grammar.tied)
  | .statements => tokens.parse (Grammar.statements Grammar.tied)

end Program

end LiveConsole.Script
