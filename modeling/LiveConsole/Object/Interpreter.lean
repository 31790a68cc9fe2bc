import LiveConsole.Object.Iteration

/-!
# The interpreter seen from inside

Operations that come back to running code reach it through a table: calling a value, evaluating an
expression, executing statements. A site tells where code stands and so where its names live.
-/

set_option autoImplicit false

namespace LiveConsole

/-- What code belongs to, with its names: those of a function's call or of a class body. -/
inductive Place where
  | script
  | function (frame : Address)
  | class (members : Address) (nonlocals : List Text)

/-- The place of code, the names that are global there, the calls of the functions around it with
the innermost first, and the path of what it defines. -/
structure Site where
  place : Place
  globals : List Text
  outer : List Address
  path : Text

namespace Site

def script : Site := ⟨.script, [], [], []⟩

/-- The calls whose names are visible in functions defined here. -/
def around (s : Site) : List Address :=
  match s.place with
  | .function frame => frame :: s.outer
  | _ => s.outer

end Site

structure Interpreter where
  call : Value → List Value → Names → Run Value
  evaluate : Site → Script.Expr → Run Value
  execute : Site → List Script.Stmt → Run Flow

namespace Interpreter

/-- The interpreter at the end of its depth. -/
def exhausted : Interpreter where
  call _ _ _ := Run.raise .recursionError "maximum recursion depth exceeded"
  evaluate _ _ := Run.raise .recursionError "maximum recursion depth exceeded"
  execute _ _ := Run.raise .recursionError "maximum recursion depth exceeded"

/-- An interpreter of a bounded depth, each level built from the one below when it is used. -/
def tower (level : Interpreter → Interpreter) : Nat → Interpreter
  | 0 => exhausted
  | n + 1 =>
    { call := fun f args named => (level (tower level n)).call f args named
      evaluate := fun s e => (level (tower level n)).evaluate s e
      execute := fun s body => (level (tower level n)).execute s body }

end Interpreter

end LiveConsole
