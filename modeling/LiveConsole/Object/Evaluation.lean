import LiveConsole.Object.Binding
import LiveConsole.Object.Call
import LiveConsole.Script.Scope

/-!
# Evaluating expressions

The parts of an expression are evaluated from left to right; what is not needed is not evaluated.
-/

set_option autoImplicit false

namespace LiveConsole.Evaluation

open Script

def ofConstant : Constant → Value
  | .none => .none
  | .flag b => .flag b
  | .ellipsis => .ellipsis
  | .int n => .int n
  | .float x => .float x
  | .text t => .text t

def starred? (e : Expr) : Option Expr :=
  match e.shape with
  | .starred value => some value
  | _ => none

/-- Deals out values to as many targets. -/
def dealOut {α : Type} (store : α → Value → Run Unit) : List α → List Value → Run Unit
  | t :: ts, v :: vs => do
    store t v
    dealOut store ts vs
  | _, _ => return ()

/-- Unpacks a value into targets; one of them may take what the others leave over. -/
def unpack (store : Expr → Value → Run Unit) (targets : List Expr) (v : Value) : Run Unit := do
  let vs ← Run.members (fun type => "cannot unpack non-iterable " ++ type ++ " object") v
  let count := targets.length
  let tooFew (atLeast : Text) (wanted : Nat) : Run Unit :=
    Run.raiseValue ("not enough values to unpack (expected " ++ atLeast ++ Text.ofNat wanted
      ++ ", got " ++ Text.ofNat vs.length ++ ")")
  match targets.findIdx? fun t => (starred? t).isSome with
  | none =>
    if vs.length < count then tooFew [] count
    else if count < vs.length then
      Run.raiseValue ("too many values to unpack (expected " ++ Text.ofNat count ++ ")")
    else dealOut store targets vs
  | some n =>
    if vs.length < count - 1 then tooFew "at least " (count - 1)
    else
      let after := count - 1 - n
      let middle := (vs.drop n).take (vs.length - n - after)
      dealOut store (targets.take n) (vs.take n)
      let rest ← Run.newList middle.toArray
      dealOut store ((targets.drop n).filterMap starred?) [rest]
      dealOut store (targets.drop (n + 1)) (vs.drop (vs.length - after))

/-- Stores a value into a target. -/
def assign (i : Interpreter) (s : Site) : (bound : Nat) → Expr → Value → Run Unit
  | 0, _, _ => Run.raise .recursionError "maximum recursion depth exceeded"
  | bound + 1, target, v => do
    match target.shape with
    | .name id => s.bind id v
    | .field object id => Field.set (← i.evaluate s object) id v
    | .subscript object index =>
      let container ← i.evaluate s object
      Indexing.setItem container (← i.evaluate s index) v
    | .tuple targets | .list targets => unpack (assign i s bound) targets v
    | _ => return ()

/-- How deeply targets may be nested. -/
def targetDepth : Nat := 1000

def store (i : Interpreter) (s : Site) (target : Expr) (v : Value) : Run Unit :=
  assign i s targetDepth target v

def delete (i : Interpreter) (s : Site) : (bound : Nat) → Expr → Run Unit
  | 0, _ => Run.raise .recursionError "maximum recursion depth exceeded"
  | bound + 1, target => do
    match target.shape with
    | .name id => s.delete id
    | .field object id => Field.delete (← i.evaluate s object) id
    | .subscript object index =>
      let container ← i.evaluate s object
      Indexing.deleteItem container (← i.evaluate s index)
    | .tuple targets | .list targets => targets.forM (delete i s bound)
    | _ => return ()

/-- What a function's definition fixes. -/
def newFunction (s : Site) (name path : Text) (params : List Text) (defaults : List Value)
    (scope : Scope) (body : Body) (notes : Entries) : Run Value := do
  let owned := scope.owned
  let globals := scope.globals.map Prod.fst ++ s.globals.filter (!owned.contains ·)
  let notes ← Run.newDict notes
  let home := (Names.find? "__name__" (← Run.machine).globals).getD .none
  let f : Function := ⟨name, path, home, params, defaults, owned, globals, s.around, body⟩
  return .ref (← Run.alloc (.function f [("__annotations__", notes)]))

def defaults (i : Interpreter) (s : Site) (params : List Param) : Run (List Value) :=
  (params.filterMap Param.default).mapM (i.evaluate s)

def lambda (i : Interpreter) (s : Site) (params : List Param) (body : Expr) : Run Value := do
  let values ← defaults i s params
  let scope : Scope :=
    ⟨.function, params.map fun p => (p.name, p.line), body.mentions false⟩
  newFunction s "<lambda>" (s.path ++ "<lambda>") (params.map Param.name) values scope
    (.expression body) []

/-- The name of a called value in messages: its path, after that of its module. What has no path
is written out. -/
def calledName (i : Interpreter) (callee : Value) : Run Text := do
  let m ← Run.machine
  match Field.find? m callee "__qualname__" with
  | none => i.plain callee
  | some path =>
    let path := (← i.plain path) ++ "()"
    match Field.find? m callee "__module__" with
    | none | some .none => return path
    | some home =>
      if home.same (.text "builtins") then return path
      else return (← i.plain home) ++ "." ++ path

/-- The members of a starred value among others. -/
def spreadOut (v : Value) : Run (List Value) :=
  Run.members (fun type => "Value after * must be an iterable, not " ++ type) v

/-- Evaluates arguments by position; `found` is kept backwards. -/
def byPosition (i : Interpreter) (s : Site) (found : List Value) :
    List Argument → Run (List Value)
  | [] => return found.reverse
  | .positional e :: rest => do byPosition i s ((← i.evaluate s e) :: found) rest
  | .spread _ e :: rest => do
    let more ← spreadOut (← i.evaluate s e)
    byPosition i s (more.reverse ++ found) rest
  | _ :: rest => byPosition i s found rest

/-- Adds arguments by name that must not be there yet. -/
def addNames (i : Interpreter) (callee : Value) : Entries → Entries → Run Entries
  | [], named => return named
  | (key, v) :: rest, named => do
    match Entries.find? key named with
    | none => addNames i callee rest (named ++ [(key, v)])
    | some _ =>
      Run.raiseType ((← calledName i callee) ++ " got multiple values for keyword argument '"
        ++ (← i.plain key) ++ "'")

/-- Evaluates arguments by name. Single ones wait, backwards, until a dictionary or the end is
reached. -/
def byName (i : Interpreter) (s : Site) (callee : Value) (named waiting : Entries) :
    List Argument → Run Entries
  | [] => addNames i callee waiting.reverse named
  | .keyword _ id e :: rest => do
    byName i s callee named ((.text id, ← i.evaluate s e) :: waiting) rest
  | .spreadKeywords _ e :: rest => do
    let named ← addNames i callee waiting.reverse named
    let v ← i.evaluate s e
    let m ← Run.machine
    match m.dict? v with
    | none =>
      Run.raiseType ((← calledName i callee) ++ " argument after ** must be a mapping, not "
        ++ m.typeName v)
    | some entries => byName i s callee (← addNames i callee entries named) [] rest
  | _ :: rest => byName i s callee named waiting rest

/-- The names that arguments are given by. -/
def names : Entries → Run Names
  | [] => return []
  | (.text id, v) :: rest => do return (id, v) :: (← names rest)
  | _ :: _ => Run.raiseType "keywords must be strings"

def isByPosition : Argument → Bool
  | .positional _ | .spread _ _ => true
  | .keyword .. | .spreadKeywords _ _ => false

/-- Evaluates the arguments of a call, those by position first. A starred value that stands alone
is spread out last. -/
def arguments (i : Interpreter) (s : Site) (callee : Value) (args : List Argument) :
    Run (List Value × Names) := do
  match args.filter isByPosition with
  | [.spread _ e] =>
    let v ← i.evaluate s e
    let named ← byName i s callee [] [] args
    let m ← Run.machine
    match Cursor.of? m v with
    | some c => return (c.rest m, ← names named)
    | none =>
      Run.raiseType ((← calledName i callee) ++ " argument after * must be an iterable, not "
        ++ m.typeName v)
  | _ =>
    let vs ← byPosition i s [] args
    return (vs, ← names (← byName i s callee [] [] args))

/-- The members of a display, with starred ones spread out; `found` is kept backwards. -/
def items (i : Interpreter) (s : Site) (found : List Value) : List Expr → Run (List Value)
  | [] => return found.reverse
  | e :: rest => do
    match starred? e with
    | none => items i s ((← i.evaluate s e) :: found) rest
    | some inner =>
      let more ← spreadOut (← i.evaluate s inner)
      items i s (more.reverse ++ found) rest

/-- Puts evaluated pairs into a dictionary. -/
def putAll (entries : Entries) : List (Value × Value) → Run Entries
  | [] => return entries
  | (k, v) :: rest => do
    Run.requireKey k
    putAll (Entries.put k v entries) rest

/-- Evaluates the entries of a display. Pairs wait, backwards, until another dictionary or the end
is reached. -/
def entries (i : Interpreter) (s : Site) (found : Entries) (waiting : List (Value × Value)) :
    List (Option Expr × Expr) → Run Entries
  | [] => putAll found waiting.reverse
  | (some key, value) :: rest => do
    let k ← i.evaluate s key
    entries i s found ((k, ← i.evaluate s value) :: waiting) rest
  | (none, value) :: rest => do
    let found ← putAll found waiting.reverse
    let v ← i.evaluate s value
    let m ← Run.machine
    match m.dict? v with
    | some more => entries i s (Operation.merged found more) [] rest
    | none => Run.raiseType ("'" ++ m.typeName v ++ "' object is not a mapping")

/-- How many rounds a loop may take. -/
def roundLimit : Nat := twoTo 62

/-- Runs once for every member that a cursor still has. -/
def forEach (body : Value → Run Unit) : (rounds : Nat) → Cursor → Run Unit
  | 0, _ => return ()
  | rounds + 1, c => do
    match ← c.next? with
    | none => return ()
    | some (v, c) =>
      body v
      forEach body rounds c

def allTrue (i : Interpreter) (s : Site) : List Expr → Run Bool
  | [] => return true
  | e :: rest => do
    if ← Operation.isTrue (← i.evaluate s e) then allTrue i s rest else return false

/-- Runs the loops of a comprehension around `body`; the source of the first is given. -/
def loops (i : Interpreter) (s : Site) (body : Run Unit) : List Clause → Option Cursor → Run Unit
  | [], _ => body
  | ⟨target, source, conditions⟩ :: rest, first => do
    let cursor ← match first with
      | some c => pure c
      | none => Run.cursor Run.notIterable (← i.evaluate s source)
    forEach (fun v => do
      store i s target v
      if ← allTrue i s conditions then loops i s body rest none) roundLimit cursor

/-- The members of a list that a comprehension builds, each appended as it is found. -/
def comprehension (i : Interpreter) (s : Site) (item : Expr) (clauses : List Clause) :
    Run Value := do
  match clauses with
  | [] => return .none
  | clause :: _ =>
    let first ← Run.cursor Run.notIterable (← i.evaluate s clause.source)
    let scope : Scope := ⟨.function, [], mentionsOfEach true (clauses.map Clause.target)⟩
    let owned := scope.owned
    let frame ← Run.alloc (.frame (owned.map fun id => (id, none)))
    let inner : Site :=
      ⟨.function frame, s.globals.filter (!owned.contains ·), s.around, s.path ++ "<listcomp>."⟩
    let found ← Run.alloc (.list #[])
    let add : Run Unit := do
      let v ← i.evaluate inner item
      modify fun m =>
        match m.cell? found with
        | some (.list vs) => m.put found (.list (vs.push v))
        | _ => m
    Run.deeper (loops i inner add clauses (some first))
    return .ref found

/-- Evaluates operands until one decides. -/
def logical (i : Interpreter) (s : Site) (op : LogicalOp) (v : Value) : List Expr → Run Value
  | [] => return v
  | e :: rest => do
    if (← Operation.isTrue v) == (op = .or) then return v
    else logical i s op (← i.evaluate s e) rest

/-- Compares neighbours until one comparison fails. -/
def comparisons (i : Interpreter) (s : Site) (a : Value) :
    List (CompareOp × Expr) → Run Value
  | [] => return .flag true
  | (op, e) :: rest => do
    let b ← i.evaluate s e
    if ← Operation.compare op a b then comparisons i s b rest else return .flag false

def optional (i : Interpreter) (s : Site) (e : Option Expr) : Run Value :=
  match e with
  | some e => i.evaluate s e
  | none => return .none

def expression (i : Interpreter) (s : Site) (e : Expr) : Run Value := do
  match e.shape with
  | .constant c => return ofConstant c
  | .name id =>
    if id = Text.ofString "__debug__" then return .flag true else s.read id
  | .unary op operand => Operation.unary op (← i.evaluate s operand)
  | .negation operand => return .flag !(← Operation.isTrue (← i.evaluate s operand))
  | .binary op left right =>
    let a ← i.evaluate s left
    Operation.binary i op a (← i.evaluate s right)
  | .logical op first rest => logical i s op (← i.evaluate s first) rest
  | .compare first rest => comparisons i s (← i.evaluate s first) rest
  | .conditional test yes no =>
    if ← Operation.isTrue (← i.evaluate s test) then i.evaluate s yes else i.evaluate s no
  | .lambda params body => lambda i s params body
  | .call callee args =>
    let f ← i.evaluate s callee
    let (args, named) ← arguments i s f args
    i.call f args named
  | .field object id => Field.read (← i.evaluate s object) id
  | .subscript object index =>
    let container ← i.evaluate s object
    Indexing.item container (← i.evaluate s index)
  | .slice lower upper step =>
    let lower ← optional i s lower
    let upper ← optional i s upper
    return .slice lower upper (← optional i s step)
  | .list es => Run.newList (← items i s [] es).toArray
  | .tuple es => return .tuple (← items i s [] es)
  | .dict es => Run.newDict (← entries i s [] [] es)
  | .comprehension item clauses => comprehension i s item clauses
  | .bind id value =>
    let v ← i.evaluate s value
    s.bind id v
    return v
  | .starred _ | .yield _ | .yieldFrom _ | .await _ => return .none

end LiveConsole.Evaluation
