import LiveConsole.Number.Digits
import LiveConsole.Number.Shortest
import LiveConsole.Text.Quoted
import LiveConsole.Script.Tree

/-!
# The spelling of an expression

One text for every tree, with single blanks around operators and with no more brackets than the
ranks of the operators ask for. Annotations are kept in this form.
-/

set_option autoImplicit false

namespace LiveConsole.Script

namespace Constant

def spelling : Constant → Text
  | none => "None"
  | flag true => "True"
  | flag false => "False"
  | ellipsis => "..."
  | int n => Digits.numeral n
  | float x => Shortest.write { Shortest.layout with infinity := "1e309" } x
  | text t => t.quoted

end Constant

/-- How tightly a form binds. -/
inductive Rank where
  | tuple
  | test
  | or
  | and
  | not
  | compare
  | bitOr
  | bitXor
  | bitAnd
  | shift
  | sum
  | term
  | factor
  | power
  | await
  | atom
deriving DecidableEq

namespace Rank

def number : Rank → Nat
  | tuple => 0
  | test => 1
  | or => 2
  | and => 3
  | not => 4
  | compare => 5
  | bitOr => 6
  | bitXor => 7
  | bitAnd => 8
  | shift => 9
  | sum => 10
  | term => 11
  | factor => 12
  | power => 13
  | await => 14
  | atom => 15

end Rank

namespace BinaryOp

def sign : BinaryOp → String
  | add => "+"
  | subtract => "-"
  | multiply => "*"
  | matrixMultiply => "@"
  | divide => "/"
  | modulo => "%"
  | power => "**"
  | shiftLeft => "<<"
  | shiftRight => ">>"
  | bitOr => "|"
  | bitXor => "^"
  | bitAnd => "&"
  | floorDivide => "//"

def rank : BinaryOp → Rank
  | add | subtract => .sum
  | multiply | matrixMultiply | divide | modulo | floorDivide => .term
  | power => .power
  | shiftLeft | shiftRight => .shift
  | bitOr => .bitOr
  | bitXor => .bitXor
  | bitAnd => .bitAnd

end BinaryOp

namespace UnaryOp

def sign : UnaryOp → String
  | invert => "~"
  | negate => "-"
  | affirm => "+"

end UnaryOp

namespace CompareOp

def sign : CompareOp → String
  | equal => "=="
  | different => "!="
  | less => "<"
  | lessEqual => "<="
  | greater => ">"
  | greaterEqual => ">="
  | same => "is"
  | notSame => "is not"
  | member => "in"
  | notMember => "not in"

end CompareOp

namespace Expr

def bracketIf (b : Bool) (t : Text) : Text :=
  if b then "(" ++ t ++ ")" else t

def isWholeNumber (e : Expr) : Bool :=
  match e.shape with
  | .constant (.int _) => true
  | _ => false

end Expr

/-- What stands before the value of an argument. -/
def Argument.mark : Argument → Text
  | positional _ => []
  | spread _ _ => "*"
  | keyword _ name _ => name ++ "="
  | spreadKeywords _ _ => "**"

def Argument.rank : Argument → Rank
  | spread _ _ => .bitOr
  | _ => .test

namespace Expr

/-- The spelling of an expression where forms below a rank need brackets. -/
def spell (least : Nat) : Expr → Text
  | ⟨_, .constant c⟩ => c.spelling
  | ⟨_, .name id⟩ => id
  | ⟨_, .unary op e⟩ =>
    let r := Rank.factor.number
    bracketIf (least > r) ((op.sign : Text) ++ spell r e)
  | ⟨_, .negation e⟩ =>
    let r := Rank.not.number
    bracketIf (least > r) ("not " ++ spell r e)
  | ⟨_, .binary op left right⟩ =>
    let r := op.rank.number
    let (onLeft, onRight) := if op = .power then (r + 1, r) else (r, r + 1)
    bracketIf (least > r)
      (spell onLeft left ++ " " ++ (op.sign : Text) ++ " " ++ spell onRight right)
  | ⟨_, .logical op first rest⟩ =>
    let r := (if op = .and then Rank.and else Rank.or).number
    let sign : Text := if op = .and then " and " else " or "
    bracketIf (least > r)
      (spell (r + 1) first ++ rest.flatMap fun e => sign ++ spell (r + 1) e)
  | ⟨_, .compare first rest⟩ =>
    let r := Rank.compare.number
    bracketIf (least > r) (spell (r + 1) first
      ++ rest.flatMap fun p => (" " ++ (p.1.sign : Text) ++ " " ++ spell (r + 1) p.2 : Text))
  | ⟨_, .conditional test yes no⟩ =>
    let r := Rank.test.number
    bracketIf (least > r)
      (spell (r + 1) yes ++ " if " ++ spell (r + 1) test ++ " else " ++ spell r no)
  | ⟨_, .lambda params body⟩ =>
    let r := Rank.test.number
    let ps := params.map fun p => p.name ++ match _h : p.default with
      | some value => "=" ++ spell r value
      | none => []
    let head : Text := if params.isEmpty then "lambda" else "lambda "
    bracketIf (least > r) (head ++ Text.join ", " ps ++ ": " ++ spell r body)
  | ⟨_, .call callee arguments⟩ =>
    let found := arguments.map fun a => a.mark ++ spell a.rank.number a.value
    spell Rank.atom.number callee ++ "(" ++ Text.join ", " found ++ ")"
  | ⟨_, .field object name⟩ =>
    let dot : Text := if object.isWholeNumber then " ." else "."
    spell Rank.atom.number object ++ dot ++ name
  | ⟨_, .subscript object index⟩ =>
    spell Rank.atom.number object ++ "[" ++ spell Rank.tuple.number index ++ "]"
  | ⟨_, .slice lower upper step⟩ =>
    let r := Rank.test.number
    let low : Text := match lower with
      | some e => spell r e
      | none => []
    let high : Text := match upper with
      | some e => spell r e
      | none => []
    let by_ : Text := match step with
      | some e => ":" ++ spell r e
      | none => []
    low ++ ":" ++ high ++ by_
  | ⟨_, .starred e⟩ => "*" ++ spell Rank.bitOr.number e
  | ⟨_, .list items⟩ =>
    "[" ++ Text.join ", " (items.map fun e => spell Rank.test.number e) ++ "]"
  | ⟨_, .tuple items⟩ =>
    match items with
    | [] => "()"
    | [only] => bracketIf (least > 0) (spell Rank.test.number only ++ ",")
    | items => bracketIf (least > 0) (Text.join ", " (items.map fun e => spell Rank.test.number e))
  | ⟨_, .dict entries⟩ =>
    let r := Rank.test.number
    let found := entries.map fun p =>
      match _h : p.1 with
      | some key => spell r key ++ ": " ++ spell r p.2
      | none => Text.ofString "**" ++ spell Rank.bitOr.number p.2
    "\x7b" ++ Text.join ", " found ++ "\x7d"
  | ⟨_, .comprehension item clauses⟩ =>
    let r := Rank.test.number
    let found := clauses.map fun c =>
      (" for " ++ spell Rank.tuple.number c.target ++ " in " ++ spell (r + 1) c.source : Text)
        ++ c.conditions.attach.flatMap fun ⟨e, _⟩ => (" if " ++ spell (r + 1) e : Text)
    "[" ++ spell r item ++ found.flatten ++ "]"
  | ⟨_, .bind name value⟩ =>
    bracketIf (least > 0) (name ++ " := " ++ spell Rank.test.number value)
  | ⟨_, .yield none⟩ => "(yield)"
  | ⟨_, .yield (some e)⟩ => "(yield " ++ spell Rank.test.number e ++ ")"
  | ⟨_, .yieldFrom e⟩ => "(yield from " ++ spell Rank.test.number e ++ ")"
  | ⟨_, .await e⟩ =>
    let r := Rank.await.number
    bracketIf (least > r) ("await " ++ spell Rank.atom.number e)

termination_by e => sizeOf e
decreasing_by
  all_goals refine sizeOf_lt_of_mem_parts ?_
  all_goals simp only [Expr.parts, Expr.shape, Shape.parts]
  all_goals simp_all [Clause.parts]
  · exact .inr ⟨_, ‹p ∈ rest›⟩
  · exact .inl ⟨p, ‹p ∈ params›, ‹p.default = some value›⟩
  · exact .inr ⟨a, ‹a ∈ arguments›, rfl⟩
  · exact ⟨p.1, p.2, ‹p ∈ entries›, .inl ‹p.1 = some key›⟩
  · exact ⟨p.1, p.2, ‹p ∈ entries›, .inr rfl⟩
  · exact ⟨p.1, p.2, ‹p ∈ entries›, .inr rfl⟩
  · exact .inr ⟨c, ‹c ∈ clauses›, .inl rfl⟩
  · exact .inr ⟨c, ‹c ∈ clauses›, .inr (.inl rfl)⟩
  · exact .inr ⟨c, ‹c ∈ clauses›, .inr (.inr ‹e ∈ c.conditions›)⟩

def spelling (e : Expr) : Text :=
  e.spell Rank.test.number

end Expr

end LiveConsole.Script
