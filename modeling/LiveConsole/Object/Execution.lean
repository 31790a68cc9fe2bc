import LiveConsole.Object.Evaluation
import LiveConsole.Script.Spelling

/-!
# Executing statements

Statements run in order until one of them leaves the sequence. Annotations are not evaluated: what
is kept of them is their spelling.
-/

set_option autoImplicit false

namespace LiveConsole.Execution

open Script

mutual

/-- Whether a statement annotates a name of the body it stands in. -/
def annotates : Stmt → Bool
  | ⟨_, action⟩ =>
    match action with
    | .annotate .. => true
    | .when _ body rest | .while _ body rest | .for _ _ body rest =>
      anyAnnotates body || anyAnnotates rest
    | .try body handlers rest final =>
      anyAnnotates body || handlersAnnotate handlers || anyAnnotates rest || anyAnnotates final
    | _ => false

def anyAnnotates : List Stmt → Bool
  | [] => false
  | s :: rest => annotates s || anyAnnotates rest

def handlersAnnotate : List Handler → Bool
  | [] => false
  | ⟨_, _, _, body⟩ :: rest => anyAnnotates body || handlersAnnotate rest

end

def notesName : Text := "__annotations__"

/-- The text with which a body begins. -/
def description? : List Stmt → Option Text
  | ⟨_, .expression ⟨_, .constant (.text t)⟩⟩ :: _ => some t
  | _ => none

/-- What a body finds in its names before its first statement. -/
def prepare (s : Site) (body : List Stmt) : Run Unit := do
  if anyAnnotates body then
    if !s.isBound (← Run.machine) notesName then s.bind notesName (← Run.newDict [])
  if let some t := description? body then s.bind "__doc__" (.text t)

/-- Annotates a target that may be assigned a value first. -/
def annotate (i : Interpreter) (s : Site) (target note : Expr) (value : Option Expr)
    (simple : Bool) : Run Unit := do
  if let some e := value then Evaluation.store i s target (← i.evaluate s e)
  match target.shape with
  | .name id =>
    match s.place with
    | .function _ => return ()
    | _ =>
      if simple then
        Indexing.setItem (← s.read notesName) (.text id) (.text note.spelling)
  | .field object _ => if value.isNone then let _ ← i.evaluate s object
  | .subscript object index =>
    if value.isNone then
      let _ ← i.evaluate s object
      let _ ← i.evaluate s index
  | _ => return ()

def update (i : Interpreter) (s : Site) (target : Expr) (op : BinaryOp) (value : Expr) :
    Run Unit := do
  match target.shape with
  | .name id =>
    let old ← s.read id
    s.bind id (← Operation.update i op old (← i.evaluate s value))
  | .field object id =>
    let v ← i.evaluate s object
    let old ← Field.read v id
    Field.set v id (← Operation.update i op old (← i.evaluate s value))
  | .subscript object index =>
    let container ← i.evaluate s object
    let index ← i.evaluate s index
    let old ← Indexing.item container index
    Indexing.setItem container index (← Operation.update i op old (← i.evaluate s value))
  | _ => return ()

/-- The error that a raised value stands for. -/
def errorOf (i : Interpreter) (refusal : Text) (v : Value) : Run Value := do
  let m ← Run.machine
  if m.isErrorType v then
    let e ← i.call v [] []
    if (← Run.machine).isError e then return e else Run.raiseType refusal
  else if m.isError v then return v
  else Run.raiseType refusal

def raise (i : Interpreter) (s : Site) (error cause : Option Expr) : Run Unit := do
  match error with
  | none =>
    match (← Run.machine).handled with
    | e :: _ => throw e
    | [] => Run.raise .runtimeError "No active exception to reraise"
  | some error =>
    let v ← i.evaluate s error
    let cause ← Evaluation.optional i s cause
    let e ← errorOf i "exceptions must derive from BaseException" v
    match cause with
    | .none => throw e
    | cause =>
      let _ ← errorOf i "exception causes must derive from BaseException" cause
      throw e

def require (i : Interpreter) (s : Site) (test : Expr) (message : Option Expr) : Run Unit := do
  if !(← Operation.isTrue (← i.evaluate s test)) then
    match message with
    | none => Run.raiseWith .assertionError []
    | some e => Run.raiseWith .assertionError [← i.evaluate s e]

def whileLoop (i : Interpreter) (s : Site) (test : Expr) (body otherwise : List Stmt) :
    (rounds : Nat) → Run Flow
  | 0 => return .next
  | rounds + 1 => do
    if ← Operation.isTrue (← i.evaluate s test) then
      match ← i.execute s body with
      | .broke => return .next
      | .returned v => return .returned v
      | _ => whileLoop i s test body otherwise rounds
    else i.execute s otherwise

def forLoop (i : Interpreter) (s : Site) (target : Expr) (body otherwise : List Stmt) :
    (rounds : Nat) → Cursor → Run Flow
  | 0, _ => return .next
  | rounds + 1, c => do
    match ← c.next? with
    | none => i.execute s otherwise
    | some (v, c) =>
      Evaluation.store i s target v
      match ← i.execute s body with
      | .broke => return .next
      | .returned v => return .returned v
      | _ => forLoop i s target body otherwise rounds c

def attempt {α : Type} (r : Run α) : Run (Except Value α) :=
  tryCatch (r.map Except.ok) fun e => return Except.error e

/-- Whether an error is of a kind, or of one of several. -/
def catches (m : Machine) (e kind : Value) : Option Bool :=
  let kinds := match kind with
    | .tuple kinds => kinds
    | kind => [kind]
  if kinds.all m.isErrorType then some (kinds.any (m.isBelow (m.typeOf e))) else none

/-- The first handler for an error. -/
def handler? (i : Interpreter) (s : Site) (e : Value) : List Handler → Run (Option Handler)
  | [] => return none
  | h@⟨_, kind, _, _⟩ :: rest => do
    match kind with
    | none => return some h
    | some kind =>
      let kind ← i.evaluate s kind
      match catches (← Run.machine) e kind with
      | some true => return some h
      | some false => handler? i s e rest
      | none =>
        Run.raiseType "catching classes that do not inherit from BaseException is not allowed"

/-- Runs a handler; the name it gives the error is gone afterwards. -/
def handle (i : Interpreter) (s : Site) (e : Value) : Handler → Run Flow
  | ⟨_, _, none, body⟩ => i.execute s body
  | ⟨_, _, some id, body⟩ => do
    s.bind id e
    let result ← attempt (i.execute s body)
    s.release id
    MonadExcept.ofExcept result

def protect (i : Interpreter) (s : Site) (body : List Stmt) (handlers : List Handler)
    (otherwise : List Stmt) : Run Flow := do
  match ← attempt (i.execute s body) with
  | .ok .next => i.execute s otherwise
  | .ok flow => return flow
  | .error e =>
    Run.handling e do
      match ← handler? i s e handlers with
      | some h => handle i s e h
      | none => throw e

/-- Runs statements in any case; if they leave the sequence themselves, that counts. -/
def finish (i : Interpreter) (s : Site) (final : List Stmt) (r : Run Flow) : Run Flow := do
  match ← attempt r with
  | .ok flow =>
    match ← i.execute s final with
    | .next => return flow
    | other => return other
  | .error e =>
    match ← Run.handling e (i.execute s final) with
    | .next => throw e
    | other => return other

def defined (s : Site) (name : Text) : Text :=
  if s.isGlobal name then name else s.path ++ name

def notes (params : List Param) (result : Option Expr) : Entries :=
  let ofParams := params.filterMap fun p =>
    p.note.map fun e => (Value.text p.name, Value.text e.spelling)
  ofParams ++ result.toList.map fun e => (.text "return", .text e.spelling)

def function (i : Interpreter) (s : Site) (name : Text) (params : List Param)
    (result : Option Expr) (body : List Stmt) : Run Unit := do
  let defaults ← Evaluation.defaults i s params
  let f ← Evaluation.newFunction s name (defined s name) (params.map Param.name) defaults
    (Scope.ofFunction params body) (.statements body) (notes params result)
  s.bind name f

/-- Makes a class, of a kind or class that is given or that its first base has. If that is not `type`
itself, it is called to make the class. -/
def makeClass (i : Interpreter) (name path : Text) (bases : List Value) (named : Names)
    (members : Names) : Run Value := do
  let m ← Run.machine
  let given := Names.find? "metaclass" named
  let named := Names.drop "metaclass" named
  let type := given.getD ((bases.head?.map m.typeOf).getD (.kind .type))
  let type ← if m.isType type then Inheritance.typeOf type bases else pure type
  if type.same (.kind .type) then
    if named.isEmpty then
      Inheritance.newClass type name path bases (Names.drop "__qualname__" members)
    else Run.raiseType (path ++ ".__init_subclass__() takes no keyword arguments")
  else
    let parts ← Run.newDict (Conversion.ofNames members)
    i.call type [.text name, .tuple bases, parts] named

def classStatement (i : Interpreter) (s : Site) (name : Text) (bases : List Argument)
    (body : List Stmt) : Run Unit := do
  let path := defined s name
  let args := bases
  let bases ← Evaluation.byPosition i s [] args
  let named ← Evaluation.names (← Evaluation.byName i s .none [] [] args)
  let home ← Site.readGlobal "__name__"
  let members ← Run.alloc
    (.names [("__module__", home), ("__qualname__", .text path)])
  let scope : Scope := ⟨.classBody, [], mentionsOfBody body⟩
  let owned := scope.owned
  let inner : Site :=
    ⟨.class members (scope.nonlocals.map Prod.fst),
      scope.globals.map Prod.fst ++ s.globals.filter (!owned.contains ·), s.around, path ++ "."⟩
  prepare inner body
  let _ ← i.execute inner body
  let found := Site.members (← Run.machine) members
  s.bind name (← makeClass i name path bases named found)

def done (r : Run Unit) : Run Flow := do
  r
  return .next

def statement (i : Interpreter) (s : Site) (st : Stmt) : Run Flow := do
  match st.action with
  | .expression e =>
    let _ ← i.evaluate s e
    return .next
  | .assign targets value =>
    let v ← i.evaluate s value
    done (targets.forM fun t => Evaluation.store i s t v)
  | .update target op value => done (update i s target op value)
  | .annotate target note value simple => done (annotate i s target note value simple)
  | .delete targets => done (targets.forM (Evaluation.delete i s Evaluation.targetDepth))
  | .pass | .global _ | .nonlocal _ => return .next
  | .break => return .broke
  | .continue => return .continued
  | .return value => return .returned (← Evaluation.optional i s value)
  | .raise error cause => done (raise i s error cause)
  | .assert test message => done (require i s test message)
  | .when test body otherwise =>
    if ← Operation.isTrue (← i.evaluate s test) then i.execute s body else i.execute s otherwise
  | .while test body otherwise => whileLoop i s test body otherwise Evaluation.roundLimit
  | .for target source body otherwise =>
    let c ← Run.cursor Run.notIterable (← i.evaluate s source)
    forLoop i s target body otherwise Evaluation.roundLimit c
  | .try body handlers otherwise final =>
    let r := protect i s body handlers otherwise
    if final.isEmpty then r else finish i s final r
  | .function name params result body => done (function i s name params result body)
  | .class name bases body => done (classStatement i s name bases body)

def statements (i : Interpreter) (s : Site) : List Stmt → Run Flow
  | [] => return .next
  | st :: rest => do
    match ← statement i s st with
    | .next => statements i s rest
    | flow => return flow

end LiveConsole.Execution

namespace LiveConsole

namespace Interpreter

/-- One level of the interpreter in terms of the level below. -/
def level (i : Interpreter) : Interpreter where
  call := applyValue i
  evaluate := Evaluation.expression i
  execute := Execution.statements i

/-- How deeply the interpreter may come back to itself. -/
def depthLimit : Nat := twoTo 62

def full : Interpreter :=
  tower level depthLimit

end Interpreter

namespace Script.Program

/-- Runs a compiled script; only an expression has a value of its own. -/
def run (p : Program) : Run Value := do
  let i := Interpreter.full
  match p with
  | .expression e => i.evaluate .script e
  | .statements body =>
    Execution.prepare .script body
    let _ ← i.execute .script body
    return .none

end Script.Program

end LiveConsole
