import LiveConsole.Script.Tree

/-!
# What expressions are called

The words for expressions in complaints, and which part of an expression cannot be a target.
-/

set_option autoImplicit false

namespace LiveConsole.Script

namespace Constant

def kindName : Constant → String
  | .none => "None"
  | .flag true => "True"
  | .flag false => "False"
  | .ellipsis => "ellipsis"
  | .int _ | .float _ | .text _ => "literal"

end Constant

/-- What targets are for. -/
inductive Purpose where
  | assign
  | delete
  | loop
deriving DecidableEq

namespace Expr

def kindName (e : Expr) : String :=
  match e.shape with
  | .constant c => c.kindName
  | .name _ => "name"
  | .unary .. | .negation _ | .binary .. | .logical .. => "expression"
  | .compare .. => "comparison"
  | .conditional .. => "conditional expression"
  | .lambda .. => "lambda"
  | .call .. => "function call"
  | .field .. => "attribute"
  | .subscript .. => "subscript"
  | .slice .. => "slice"
  | .starred _ => "starred"
  | .list _ => "list"
  | .tuple _ => "tuple"
  | .dict _ => "dict literal"
  | .comprehension .. => "list comprehension"
  | .bind .. => "named expression"
  | .yield _ | .yieldFrom _ => "yield expression"
  | .await _ => "await expression"

mutual

/-- The first part of an expression that cannot be a target. -/
def misplaced? (purpose : Purpose) : Expr → Option Expr
  | mk line shape =>
    match shape with
    | .name _ | .subscript .. | .field .. => none
    | .list items | .tuple items => misplacedAmong? purpose items
    | .starred value =>
      if purpose = .delete then some (mk line shape) else misplaced? purpose value
    | .compare first rest =>
      if purpose = .loop then
        match rest with
        | (.member, _) :: _ => misplaced? purpose first
        | _ => none
      else some (mk line shape)
    | shape => some (mk line shape)

def misplacedAmong? (purpose : Purpose) : List Expr → Option Expr
  | [] => none
  | e :: rest =>
    match misplaced? purpose e with
    | some found => some found
    | none => misplacedAmong? purpose rest

end

/-- The names under which a word stands for an old statement form. -/
def isLegacyName (e : Expr) : Bool :=
  match e.shape with
  | .name id => id = Text.ofString "print" || id = Text.ofString "exec"
  | _ => false

end Expr

end LiveConsole.Script
