import LiveConsole.Object.Conversion
import LiveConsole.Object.Serving
import LiveConsole.Object.Sorting

/-!
# Built-in functions
-/

set_option autoImplicit false

namespace LiveConsole.Builtin

def absolute (v : Value) : Run Value := do
  match v.quantity? with
  | some (.int n) => return .int n.natAbs
  | some (.float x) => return .float x.abs
  | none =>
    Run.raiseType ("bad operand type for abs(): '" ++ (← Run.typeName v) ++ "'")

def length (v : Value) : Run Value := do
  let m ← Run.machine
  match v with
  | .text t => return .int t.length
  | .octets bs => return .int bs.length
  | .tuple items => return .int items.length
  | .range start stop step => return .int (Value.rangeLength start stop step)
  | .view _ a => return .int ((m.dict? (.ref a)).getD []).length
  | v =>
    match m.list? v, m.dict? v with
    | some items, _ => return .int items.size
    | none, some entries => return .int entries.length
    | none, none => Run.raiseType ("object of type '" ++ m.typeName v ++ "' has no len()")

def character (v : Value) : Run Value := do
  let n ← Arguments.index v
  if n < -(twoTo 31 : Int) ∨ (twoTo 31 : Int) ≤ n then
    Run.raise .overflowError "Python int too large to convert to C int"
  else if 0 ≤ n ∧ n < 0x110000 then return .text [CodePoint.ofNat n.toNat]
  else Run.raiseValue "chr() arg not in range(0x110000)"

def number (v : Value) : Run Value := do
  let wrong (length : Nat) : Run Value :=
    Run.raiseType ("ord() expected a character, but string of length " ++ Text.ofNat length
      ++ " found")
  match v with
  | .text [c] => return .int c.value
  | .text t => wrong t.length
  | .octets [b] => return .int b.toNat
  | .octets bs => wrong bs.length
  | v =>
    Run.raiseType ("ord() expected string of length 1, but " ++ (← Run.typeName v) ++ " found")

/-- Whether some member, or none if `wanted` is false, has a truth value. -/
def search (wanted : Bool) (vs : List Value) : Run Value := do
  let m ← Run.machine
  return .flag (if wanted then vs.any (Operation.truth m) else vs.all (Operation.truth m))

/-- Whether a type is below another or below one of several. -/
def isBelow (m : Machine) (type : Value) : Value → Option Bool
  | .tuple above => each m type above
  | above => if m.isType above then some (m.isBelow type above) else none
where
  each (m : Machine) (type : Value) : List Value → Option Bool
    | [] => some false
    | v :: rest =>
      match isBelow m type v with
      | some false => each m type rest
      | answer => answer

def below (function : String) (type above : Value) : Run Value := do
  match isBelow (← Run.machine) type above with
  | some b => return .flag b
  | none =>
    let wanted : Text := if function = "issubclass" then "a class, a tuple of classes, or a union"
      else "a type, a tuple of types, or a union"
    Run.raiseType ((function : Text) ++ "() arg 2 must be " ++ wanted)

/-- The member whose key is extreme; the first of equal ones. -/
def extreme (op : Script.CompareOp) (best : Sorting.Item) : List Sorting.Item → Run Value
  | [] => return best.value
  | x :: rest => do
    if ← Comparison.ordered op Comparison.depthLimit x.key best.key then extreme op x rest
    else extreme op best rest

def pick (i : Interpreter) (f : Builtin) (op : Script.CompareOp) (args : List Value)
    (named : Names) : Run Value := do
  Arguments.allow f.name ["key", "default"] named
  let vs ← match args with
    | [] =>
      Run.raiseType ((f.name : Text) ++ " expected at least 1 argument, got 0")
    | [v] => Run.elements v
    | vs =>
      if (Names.find? "default" named).isSome then
        Run.raiseType ("Cannot specify a default for " ++ (f.name : Text)
          ++ "() with multiple positional arguments")
      else pure vs
  match ← Sorting.keyed i (Names.find? "key" named) [] vs with
  | first :: rest => extreme op first rest
  | [] =>
    match Names.find? "default" named with
    | some v => return v
    | none => Run.raiseValue ((f.name : Text) ++ "() arg is an empty sequence")

def addAll (i : Interpreter) (total : Value) : List Value → Run Value
  | [] => return total
  | v :: rest => do addAll i (← Operation.binary i .add total v) rest

def total (i : Interpreter) (args : List Value) (named : Names) : Run Value := do
  if args.isEmpty then
    Run.raiseType "sum() takes at least 1 positional argument (0 given)"
  Arguments.counted "sum" 1 2 args
  Arguments.allow "sum" ["start"] named
  let vs ← Run.elements (args.headD .none)
  match (args[1]?).or (Names.find? "start" named) with
  | some (.text _) => Run.raiseType "sum() can't sum strings [use ''.join(seq) instead]"
  | some (.octets _) => Run.raiseType "sum() can't sum bytes [use b''.join(seq) instead]"
  | start => addAll i (start.getD (.int 0)) vs

/-- Writes its arguments for nobody to read; what they do while they are written happens. -/
def printed (i : Interpreter) (args : List Value) (named : Names) : Run Value := do
  Arguments.allow "print" ["sep", "end", "file", "flush"] named
  args.forM fun v => do
    let _ ← i.plain v
  return .none

def fieldName (function : Text) (v : Value) : Run Text := do
  match v with
  | .text id => return id
  | v =>
    Run.raiseType (function ++ "(): attribute name must be string, not '" ++ (← Run.typeName v)
      ++ "'")

def exiting (args : List Value) : Run Value := do
  Arguments.between "exit" 0 1 args
  match args with
  | [] | [.none] => Run.raiseWith .systemExit []
  | .tuple codes :: _ => Run.raiseWith .systemExit codes
  | codes => Run.raiseWith .systemExit codes

def isCallable (m : Machine) (v : Value) : Bool :=
  match v with
  | .kind _ | .builtin _ | .method _ _ | .descriptor _ | .bound _ _ => true
  | .ref a =>
    match m.cell? a with
    | some (.function _ _) | some (.class _ _) => true
    | _ => false
  | _ => false

def apply (i : Interpreter) (f : Builtin) (args : List Value) (named : Names) : Run Value := do
  let takesNames := f = .makeSettings || f = .max || f = .min || f = .print || f = .sorted ||
    f = .startServer || f = .sum
  if !takesNames then Arguments.unnamed f.name named
  match f with
  | .abs => absolute (← Arguments.one "abs" args)
  | .all => search false (← Run.elements (← Arguments.one "all" args))
  | .any => search true (← Run.elements (← Arguments.one "any" args))
  | .callable => return .flag (isCallable (← Run.machine) (← Arguments.one "callable" args))
  | .chr => character (← Arguments.one "chr" args)
  | .exit => exiting args
  | .getField =>
    Arguments.between "getattr" 2 3 args
    let v := args.headD .none
    let id ← fieldName "getattr" (args.getD 1 .none)
    match ← Field.get? v id with
    | some w => return w
    | none =>
      match args[2]? with
      | some w => return w
      | none => Field.raiseMissing v id
  | .hasField =>
    Arguments.between "hasattr" 2 2 args
    let id ← fieldName "hasattr" (args.getD 1 .none)
    return .flag (← Field.get? (args.headD .none) id).isSome
  | .importModule =>
    match args with
    | .text id :: _ =>
      match [Module.builtins, .console, .system].find? fun m => Text.ofString m.name = id with
      | some m => return .module m
      | none => Run.raise .moduleNotFoundError ("No module named '" ++ id ++ "'")
    | [] => Run.raiseType "__import__() missing required argument 'name' (pos 1)"
    | v :: _ =>
      Run.raiseType ("__import__() argument 1 must be str, not " ++ (← Run.typeName v))
  | .isInstance =>
    Arguments.between "isinstance" 2 2 args
    below f.name (← Run.typeOf (args.headD .none)) (args.getD 1 .none)
  | .isRunning =>
    Arguments.nothing f.name args
    return .flag (← Serving.isRunning)
  | .isSubclass =>
    Arguments.between "issubclass" 2 2 args
    let type := args.headD .none
    if (← Run.machine).isType type then below f.name type (args.getD 1 .none)
    else Run.raiseType "issubclass() arg 1 must be a class"
  | .len => length (← Arguments.one "len" args)
  | .makeSettings => Options.make i args named
  | .max => pick i .max .greater args named
  | .mergeSettings => Options.mergeOnto i args
  | .min => pick i .min .less args named
  | .ord => number (← Arguments.one "ord" args)
  | .print => printed i args named
  | .repr => return .text (← i.literal (← Arguments.one "repr" args))
  | .setField =>
    Arguments.between "setattr" 3 3 args
    let id ← fieldName "setattr" (args.getD 1 .none)
    Field.set (args.headD .none) id (args.getD 2 .none)
    return .none
  | .sorted =>
    Arguments.between "sorted" 1 1 args
    Run.newList (← Sorting.sortNamed i named (← Run.elements (args.headD .none)))
  | .startServer => Serving.start i args named
  | .stopServer =>
    Arguments.nothing f.name args
    Serving.stop i
  | .sum => total i args named

end LiveConsole.Builtin
