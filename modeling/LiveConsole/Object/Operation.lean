import LiveConsole.Object.Formatting
import LiveConsole.Object.Indexing
import LiveConsole.Script.Spelling

/-!
# Operations

What operators do to values. An operator that makes no sense for its operands says so and names
their kinds.
-/

set_option autoImplicit false

namespace LiveConsole.Operation

open Script (UnaryOp BinaryOp CompareOp)

/-- Whether a value counts as true. -/
def truth (m : Machine) : Value → Bool
  | .none => false
  | .flag b => b
  | .int n | .number _ n => n != 0
  | .float x => x != 0.0
  | .text t => !t.isEmpty
  | .octets bs => !bs.isEmpty
  | .tuple items => !items.isEmpty
  | .range start stop step => Value.rangeLength start stop step != 0
  | .view _ a => !((m.dict? (.ref a)).getD []).isEmpty
  | .ref a =>
    match m.cell? a with
    | some (.list items) => !items.isEmpty
    | some (.dict entries) => !entries.isEmpty
    | _ => true
  | _ => true

def isTrue (v : Value) : Run Bool :=
  return truth (← Run.machine) v

def unary (op : UnaryOp) (v : Value) : Run Value := do
  match op, v.quantity? with
  | .negate, some (.int n) => return .int (-n)
  | .affirm, some (.int n) => return .int n
  | .invert, some (.int n) => return .int (Bits.complement n)
  | .negate, some (.float x) => return .float (-x)
  | .affirm, some (.float x) => return .float x
  | op, _ =>
    Run.raiseType ("bad operand type for unary " ++ (op.sign : Text) ++ ": '" ++ (← Run.typeName v)
      ++ "'")

/-- The name under which an operator is reported. -/
def reported (op : BinaryOp) (inPlace : Bool) : Text :=
  if inPlace then op.sign ++ "="
  else if op = .power then "** or pow()"
  else op.sign

def unsupported (op : BinaryOp) (inPlace : Bool) (a b : Value) : Run Value := do
  let m ← Run.machine
  let hint : Text := match op, a with
    | .shiftRight, .builtin .print =>
      ". Did you mean \"print(<message>, file=<output_stream>)\"?"
    | _, _ => []
  Run.raiseType ("unsupported operand type(s) for " ++ reported op inPlace ++ ": '"
    ++ m.typeName a ++ "' and '" ++ m.typeName b ++ "'" ++ hint)

def concatenation (a b : Value) : Run Value := do
  let m ← Run.machine
  match a, b with
  | .text s, .text t => return .text (s ++ t)
  | .octets s, .octets t => return .octets (s ++ t)
  | .tuple s, .tuple t => return .tuple (s ++ t)
  | .octets _, b => Run.raiseType ("can't concat " ++ m.typeName b ++ " to bytes")
  | a, b =>
    match m.list? a, m.list? b with
    | some xs, some ys => Run.newList (xs ++ ys)
    | _, _ =>
      let type := m.typeName a
      Run.raiseType ("can only concatenate " ++ type ++ " (not \"" ++ m.typeName b ++ "\") to "
        ++ type)

def isSequence (m : Machine) (v : Value) : Bool :=
  match v with
  | .text _ | .octets _ | .tuple _ => true
  | v => (m.list? v).isSome

/-- The longest sequence that is built. -/
def lengthLimit : Nat := twoTo 32

/-- How often a sequence of a length is repeated. -/
def repetitions (length : Nat) (count : Value) : Run Nat := do
  match count.int? with
  | none =>
    Run.raiseType ("can't multiply sequence by non-int of type '" ++ (← Run.typeName count) ++ "'")
  | some n =>
    if n < -Indexing.indexLimit ∨ Indexing.indexLimit ≤ n then
      Run.raise .overflowError "cannot fit 'int' into an index-sized integer"
    else if length * n.toNat > lengthLimit then Run.raise .memoryError []
    else return if length = 0 then 0 else n.toNat

def repeated {α : Type} (items : List α) (count : Nat) : List α :=
  (List.replicate count items).flatten

def repetition (sequence count : Value) : Run Value := do
  match sequence with
  | .text t => return .text (repeated t (← repetitions t.length count))
  | .octets bs => return .octets (repeated bs (← repetitions bs.length count))
  | .tuple items => return .tuple (repeated items (← repetitions items.length count))
  | sequence =>
    let items := ((← Run.machine).list? sequence).getD #[]
    Run.newList (repeated items.toList (← repetitions items.size count)).toArray

/-- The entries of one dictionary laid over those of another. -/
def merged (base layer : Entries) : Entries :=
  layer.foldl (fun entries (k, v) => Entries.put k v entries) base

/-- An operation on values that are not both numbers. -/
def structural (i : Interpreter) (op : BinaryOp) (inPlace : Bool) (a b : Value) : Run Value := do
  let m ← Run.machine
  match op, a, m.dict? a, m.dict? b with
  | .add, a, _, _ => if isSequence m a then concatenation a b else unsupported op inPlace a b
  | .multiply, a, _, _ =>
    if isSequence m a then repetition a b
    else if isSequence m b then repetition b a
    else unsupported op inPlace a b
  | .modulo, .text t, _, _ => Formatting.apply i t b
  | .bitOr, _, some es, some fs => Run.newDict (merged es fs)
  | op, a, _, _ => unsupported op inPlace a b

/-- Logic on two flags gives a flag. -/
def onFlags? (op : BinaryOp) (a b : Value) : Option Bool :=
  match op, a, b with
  | .bitAnd, .flag a, .flag b => some (a && b)
  | .bitOr, .flag a, .flag b => some (a || b)
  | .bitXor, .flag a, .flag b => some (a != b)
  | _, _, _ => none

def operate (i : Interpreter) (op : BinaryOp) (inPlace : Bool) (a b : Value) : Run Value :=
  match onFlags? op a b with
  | some b => return .flag b
  | none =>
    match a.quantity?, b.quantity? with
    | some x, some y =>
      match Arithmetic.operate op x y with
      | some r => return Value.ofQuantity (← Run.ofExcept r)
      | none => unsupported op inPlace a b
    | _, _ => structural i op inPlace a b

def binary (i : Interpreter) (op : BinaryOp) (a b : Value) : Run Value :=
  operate i op false a b

/-- The operation of an augmented assignment. Lists and dictionaries are changed themselves. -/
def update (i : Interpreter) (op : BinaryOp) (a b : Value) : Run Value := do
  match a with
  | .ref r =>
    match op, (← Run.machine).cell? r with
    | .add, some (.list items) =>
      let more ← Run.elements b
      Run.store r (.list (items ++ more.toArray))
      return a
    | .multiply, some (.list items) =>
      let count ← repetitions items.size b
      Run.store r (.list (repeated items.toList count).toArray)
      return a
    | .bitOr, some (.dict es) =>
      match (← Run.machine).dict? b with
      | some fs =>
        Run.store r (.dict (merged es fs))
        return a
      | none => operate i op true a b
    | _, _ => operate i op true a b
  | a => operate i op true a b

def compare (op : CompareOp) (a b : Value) : Run Bool := do
  match op with
  | .equal => Comparison.equal a b
  | .different => return !(← Comparison.equal a b)
  | .same => return a.same b
  | .notSame => return !a.same b
  | .member => Run.isMember a b
  | .notMember => return !(← Run.isMember a b)
  | op => Comparison.ordered op Comparison.depthLimit a b

end LiveConsole.Operation
