import LiveConsole.Text.CodePoint

/-!
# Syntax trees

Expressions and statements of a script. Every node knows the line on which it starts.
-/

set_option autoImplicit false

namespace LiveConsole.Script

inductive Constant where
  | none
  | flag (b : Bool)
  | ellipsis
  | int (n : Nat)
  | float (x : Float)
  | text (t : Text)
deriving Inhabited

inductive UnaryOp where
  | invert
  | negate
  | affirm
deriving DecidableEq

inductive BinaryOp where
  | add
  | subtract
  | multiply
  | matrixMultiply
  | divide
  | modulo
  | power
  | shiftLeft
  | shiftRight
  | bitOr
  | bitXor
  | bitAnd
  | floorDivide
deriving DecidableEq

inductive CompareOp where
  | equal
  | different
  | less
  | lessEqual
  | greater
  | greaterEqual
  | same
  | notSame
  | member
  | notMember
deriving DecidableEq

inductive LogicalOp where
  | and
  | or
deriving DecidableEq

mutual

inductive Expr where
  | mk (line : Nat) (shape : Shape)

inductive Shape where
  | constant (c : Constant)
  | name (id : Text)
  | unary (op : UnaryOp) (operand : Expr)
  | negation (operand : Expr)
  | binary (op : BinaryOp) (left right : Expr)
  | logical (op : LogicalOp) (first : Expr) (rest : List Expr)
  | compare (first : Expr) (rest : List (CompareOp × Expr))
  | conditional (test yes no : Expr)
  | lambda (params : List Param) (body : Expr)
  | call (callee : Expr) (arguments : List Argument)
  | field (object : Expr) (name : Text)
  | subscript (object index : Expr)
  | slice (lower upper step : Option Expr)
  | starred (value : Expr)
  | list (items : List Expr)
  | tuple (items : List Expr)
  | dict (entries : List (Option Expr × Expr))
  | comprehension (item : Expr) (clauses : List Clause)
  | bind (name : Text) (value : Expr)
  | yield (value : Option Expr)
  | yieldFrom (value : Expr)
  | await (value : Expr)

inductive Argument where
  | positional (value : Expr)
  | spread (line : Nat) (value : Expr)
  | keyword (line : Nat) (name : Text) (value : Expr)
  | spreadKeywords (line : Nat) (value : Expr)

/-- One part of a comprehension: a loop with its conditions. -/
inductive Clause where
  | mk (target source : Expr) (conditions : List Expr)

inductive Param where
  | mk (line : Nat) (name : Text) (note default : Option Expr)

end

namespace Expr

def line : Expr → Nat
  | mk line _ => line

def shape : Expr → Shape
  | mk _ shape => shape

instance : Inhabited Expr where
  default := ⟨0, .constant .none⟩

@[simp] theorem shape_mk (n : Nat) (s : Shape) : (mk n s).shape = s := rfl

end Expr

namespace Argument

def line : Argument → Nat
  | positional value => value.line
  | spread line _ | keyword line _ _ | spreadKeywords line _ => line

def value : Argument → Expr
  | positional value | spread _ value | keyword _ _ value | spreadKeywords _ value => value

theorem sizeOf_value_lt (a : Argument) : sizeOf a.value < sizeOf a := by
  cases a <;>
    simp only [value, positional.sizeOf_spec, spread.sizeOf_spec, keyword.sizeOf_spec,
      spreadKeywords.sizeOf_spec] <;>
    omega

end Argument

namespace Param

def line : Param → Nat
  | mk line _ _ _ => line

def name : Param → Text
  | mk _ name _ _ => name

def note : Param → Option Expr
  | mk _ _ note _ => note

def default : Param → Option Expr
  | mk _ _ _ default => default

theorem sizeOf_lt_of_default {p : Param} {e : Expr} (h : p.default = some e) :
    sizeOf e < sizeOf p := by
  obtain ⟨line, name, note, default⟩ := p
  obtain rfl : default = some e := h
  simp only [mk.sizeOf_spec, Option.some.sizeOf_spec]
  omega

end Param

namespace Clause

def target : Clause → Expr
  | mk target _ _ => target

def source : Clause → Expr
  | mk _ source _ => source

def conditions : Clause → List Expr
  | mk _ _ conditions => conditions

def parts (c : Clause) : List Expr :=
  c.target :: c.source :: c.conditions

theorem sizeOf_lt_of_mem_parts {c : Clause} {e : Expr} (h : e ∈ c.parts) :
    sizeOf e < sizeOf c := by
  obtain ⟨target, source, conditions⟩ := c
  simp only [parts, Clause.target, Clause.source, Clause.conditions, List.mem_cons] at h
  rw [mk.sizeOf_spec]
  rcases h with rfl | rfl | h
  · omega
  · omega
  · have := List.sizeOf_lt_of_mem h
    omega

end Clause

namespace Shape

/-- The expressions directly inside, in the order in which they stand. -/
def parts : Shape → List Expr
  | constant _ | name _ => []
  | unary _ e | negation e | field e _ | starred e | bind _ e | yieldFrom e | await e => [e]
  | binary _ left right => [left, right]
  | logical _ first rest => first :: rest
  | compare first rest => first :: rest.map Prod.snd
  | conditional test yes no => [test, yes, no]
  | lambda params body => params.filterMap Param.default ++ [body]
  | call callee arguments => callee :: arguments.map Argument.value
  | subscript object index => [object, index]
  | slice lower upper step => lower.toList ++ upper.toList ++ step.toList
  | list items | tuple items => items
  | dict entries => entries.flatMap fun (key, value) => key.toList ++ [value]
  | comprehension item clauses => item :: clauses.flatMap Clause.parts
  | yield value => value.toList

theorem sizeOf_lt_of_mem_toList {o : Option Expr} {e : Expr} (h : e ∈ o.toList) :
    sizeOf e < sizeOf o := by
  obtain rfl : o = some e := by simpa using h
  rw [Option.some.sizeOf_spec]
  omega

theorem sizeOf_lt_of_mem_parts {s : Shape} {e : Expr} (h : e ∈ s.parts) :
    sizeOf e < sizeOf s := by
  cases s with
  | constant _ | name _ => simp [parts] at h
  | unary _ x | negation x | field x _ | starred x | bind _ x | yieldFrom x | await x =>
    simp only [parts, List.mem_singleton] at h
    subst h
    simp only [unary.sizeOf_spec, negation.sizeOf_spec, field.sizeOf_spec, starred.sizeOf_spec,
      bind.sizeOf_spec, yieldFrom.sizeOf_spec, await.sizeOf_spec]
    omega
  | binary _ left right | subscript left right =>
    simp only [parts, List.mem_cons, List.not_mem_nil, or_false] at h
    simp only [binary.sizeOf_spec, subscript.sizeOf_spec]
    rcases h with rfl | rfl <;> omega
  | logical _ first rest =>
    simp only [parts, List.mem_cons] at h
    rw [logical.sizeOf_spec]
    rcases h with rfl | h
    · omega
    · have := List.sizeOf_lt_of_mem h
      omega
  | compare first rest =>
    simp only [parts, List.mem_cons, List.mem_map] at h
    rw [compare.sizeOf_spec]
    rcases h with rfl | ⟨⟨op, x⟩, hx, rfl⟩
    · omega
    · have := List.sizeOf_lt_of_mem hx
      rw [Prod.mk.sizeOf_spec] at this
      dsimp only
      omega
  | conditional test yes no =>
    simp only [parts, List.mem_cons, List.not_mem_nil, or_false] at h
    rw [conditional.sizeOf_spec]
    rcases h with rfl | rfl | rfl <;> omega
  | lambda params body =>
    simp only [parts, List.mem_append, List.mem_filterMap, List.mem_singleton] at h
    rw [lambda.sizeOf_spec]
    rcases h with ⟨p, hp, hd⟩ | rfl
    · have := List.sizeOf_lt_of_mem hp
      have := Param.sizeOf_lt_of_default hd
      omega
    · omega
  | call callee arguments =>
    simp only [parts, List.mem_cons, List.mem_map] at h
    rw [call.sizeOf_spec]
    rcases h with rfl | ⟨a, ha, rfl⟩
    · omega
    · have := List.sizeOf_lt_of_mem ha
      have := a.sizeOf_value_lt
      omega
  | slice lower upper step =>
    simp only [parts, List.mem_append] at h
    rw [slice.sizeOf_spec]
    rcases h with (h | h) | h
    · have := sizeOf_lt_of_mem_toList h
      omega
    · have := sizeOf_lt_of_mem_toList h
      omega
    · have := sizeOf_lt_of_mem_toList h
      omega
  | list items | tuple items =>
    have := List.sizeOf_lt_of_mem h
    simp only [parts] at this
    simp only [list.sizeOf_spec, tuple.sizeOf_spec]
    omega
  | dict entries =>
    simp only [parts, List.mem_flatMap, List.mem_append, List.mem_singleton] at h
    obtain ⟨⟨key, value⟩, hm, h⟩ := h
    have hm := List.sizeOf_lt_of_mem hm
    rw [Prod.mk.sizeOf_spec] at hm
    rw [dict.sizeOf_spec]
    rcases h with h | rfl
    · have := sizeOf_lt_of_mem_toList h
      dsimp only at this
      omega
    · omega
  | comprehension item clauses =>
    simp only [parts, List.mem_cons, List.mem_flatMap] at h
    rw [comprehension.sizeOf_spec]
    rcases h with rfl | ⟨c, hc, h⟩
    · omega
    · have := List.sizeOf_lt_of_mem hc
      have := Clause.sizeOf_lt_of_mem_parts h
      omega
  | yield value =>
    have := sizeOf_lt_of_mem_toList h
    rw [yield.sizeOf_spec]
    omega

end Shape

namespace Expr

def parts (e : Expr) : List Expr := e.shape.parts

theorem sizeOf_lt_of_mem_parts {e x : Expr} (h : x ∈ e.parts) : sizeOf x < sizeOf e := by
  obtain ⟨line, shape⟩ := e
  have := Shape.sizeOf_lt_of_mem_parts h
  rw [shape_mk] at this
  rw [mk.sizeOf_spec]
  omega

end Expr

mutual

inductive Stmt where
  | mk (line : Nat) (action : Action)

inductive Action where
  | expression (value : Expr)
  | assign (targets : List Expr) (value : Expr)
  | update (target : Expr) (op : BinaryOp) (value : Expr)
  | annotate (target : Expr) (note : Expr) (value : Option Expr) (simple : Bool)
  | delete (targets : List Expr)
  | pass
  | break
  | continue
  | return (value : Option Expr)
  | global (names : List Text)
  | nonlocal (names : List Text)
  | raise (error cause : Option Expr)
  | assert (test : Expr) (message : Option Expr)
  | when (test : Expr) (body otherwise : List Stmt)
  | while (test : Expr) (body otherwise : List Stmt)
  | for (target source : Expr) (body otherwise : List Stmt)
  | try (body : List Stmt) (handlers : List Handler) (otherwise final : List Stmt)
  | function (name : Text) (params : List Param) (result : Option Expr) (body : List Stmt)
  | class (name : Text) (bases : List Argument) (body : List Stmt)

inductive Handler where
  | mk (line : Nat) (kind : Option Expr) (name : Option Text) (body : List Stmt)

end

namespace Stmt

def line : Stmt → Nat
  | mk line _ => line

def action : Stmt → Action
  | mk _ action => action

instance : Inhabited Stmt where
  default := ⟨0, .pass⟩

end Stmt

/-- A compiled script: an expression to evaluate or statements to execute. -/
inductive Program where
  | expression (e : Expr)
  | statements (body : List Stmt)

end LiveConsole.Script
