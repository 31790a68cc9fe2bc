import LiveConsole.Text.Case
import LiveConsole.Object.Conversion

/-!
# Methods of texts
-/

set_option autoImplicit false

namespace LiveConsole.TextMethod

def label (m : TextMethod) : Text :=
  "str." ++ (m.name : Text)

/-- An argument that must be a text. -/
def text (refusal : Text → Text) (v : Value) : Run Text := do
  match v with
  | .text t => return t
  | v => Run.raiseType (refusal (← Run.typeName v))

/-- The part of a text between optional bounds, with the place where it begins; none when it
begins beyond the end. -/
def part (t : Text) (bounds : List Value) : Run (Option (Nat × Text)) := do
  let lower ← Indexing.sliceBound? (bounds.getD 0 .none)
  let upper ← Indexing.sliceBound? (bounds.getD 1 .none)
  let length : Int := t.length
  let low := lower.getD 0
  let low := max 0 (if low < 0 then low + length else low)
  let high := upper.getD length
  let high := min length (max 0 (if high < 0 then high + length else high))
  if low > length ∨ high < low then return none
  else return some (low.toNat, (t.take high.toNat).drop low.toNat)

/-- Looks for a text from the left or from the right. -/
def search (m : TextMethod) (t : Text) (args : List Value) : Run (Option Int) := do
  Arguments.counted m.name 1 3 args
  let sought ← text (fun type => "must be str, not " ++ type) (args.headD .none)
  match ← part t (args.drop 1) with
  | none => return none
  | some (start, within) =>
    let found := match m with
      | .rfind => Search.last? sought within
      | _ => Search.first? sought 0 within
    return found.map fun n => (start + n : Nat)

def counting (m : TextMethod) (t : Text) (args : List Value) : Run Value := do
  Arguments.counted m.name 1 3 args
  let sought ← text (fun type => "must be str, not " ++ type) (args.headD .none)
  match ← part t (args.drop 1) with
  | none => return .int 0
  | some (_, within) => return .int (Search.count sought within)

/-- Whether a text begins or ends with another, or with one of several. -/
def touches (m : TextMethod) (t : Text) (args : List Value) : Run Value := do
  Arguments.counted m.name 1 3 args
  let test (within edge : Text) : Bool :=
    if m = .startsWith then edge.isPrefixOf within else edge.isSuffixOf within
  let edges ← match args.headD .none with
    | .text edge => pure [edge]
    | .tuple edges =>
      edges.mapM (text fun type =>
        "tuple for " ++ (m.name : Text) ++ " must only contain str, not " ++ type)
    | v =>
      Run.raiseType ((m.name : Text) ++ " first arg must be str or a tuple of str, not "
        ++ (← Run.typeName v))
  match ← part t (args.drop 1) with
  | none => return .flag false
  | some (_, within) => return .flag (edges.any (test within))

/-- Checks the members of a sequence that are joined, from the member number `n` on. -/
def joined (n : Nat) (found : List Text) : List Value → Run (List Text)
  | [] => return found.reverse
  | v :: rest => do
    let t ← text (fun type => "sequence item " ++ Text.ofNat n ++ ": expected str instance, "
      ++ type ++ " found") v
    joined (n + 1) (t :: found) rest

/-- How many cuts or replacements are made: all unless a limit is given. -/
def limit (all : Nat) (v : Option Value) : Run Nat := do
  match v with
  | none => return all
  | some v =>
    let n ← Arguments.index v
    return if n < 0 then all else n.toNat

def divided (t : Text) (args : List Value) (named : Names) : Run Value := do
  Arguments.counted "split" 0 2 args
  Arguments.allow "split" ["sep", "maxsplit"] named
  let cuts ← limit (t.length + 1) ((args[1]?).or (Names.find? "maxsplit" named))
  let found ← match ((args[0]?).or (Names.find? "sep" named)).getD .none with
    | .none => pure (Text.words cuts t)
    | .text [] => Run.raiseValue "empty separator"
    | .text separator => pure (Search.pieces separator cuts t)
    | v => Run.raiseType ("must be str or None, not " ++ (← Run.typeName v))
  Run.newList (found.map Value.text).toArray

def trimmed (m : TextMethod) (t : Text) (args : List Value) : Run Value := do
  Arguments.between m.name 0 1 args
  let out : CodePoint → Bool ← match args.headD .none with
    | .none => pure Text.isBlank
    | .text ends => pure fun c => ends.contains c
    | _ => Run.raiseType ((m.name : Text) ++ " arg must be None or str")
  let t := if m = .rstrip then t else Text.trimLeft out t
  return .text (if m = .lstrip then t else Text.trimRight out t)

def replaced (t : Text) (args : List Value) : Run Value := do
  Arguments.between "replace" 2 3 args
  let old ← text (fun type => "replace() argument 1 must be str, not " ++ type) (args.getD 0 .none)
  let new ← text (fun type => "replace() argument 2 must be str, not " ++ type) (args.getD 1 .none)
  return .text (Search.replace old new (← limit (t.length + 1) args[2]?) t)

def apply (m : TextMethod) (t : Text) (args : List Value) (named : Names) : Run Value := do
  if m ≠ .split then Arguments.unnamed m.label named
  match m with
  | .lower => do
    Arguments.nothing m.label args
    return .text t.lower
  | .upper => do
    Arguments.nothing m.label args
    return .text t.upper
  | .find | .rfind => return .int ((← search m t args).getD (-1))
  | .index =>
    match ← search m t args with
    | some n => return .int n
    | none => Run.raiseValue "substring not found"
  | .count => counting m t args
  | .startsWith | .endsWith => touches m t args
  | .join =>
    let v ← Arguments.one m.label args
    let vs ← Run.members (fun _ => "can only join an iterable") v
    return .text (Text.join t (← joined 0 [] vs))
  | .split => divided t args named
  | .strip | .lstrip | .rstrip => trimmed m t args
  | .replace => replaced t args

end LiveConsole.TextMethod
