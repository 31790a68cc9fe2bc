import LiveConsole.Object.Conversion

/-!
# Methods of dictionaries
-/

set_option autoImplicit false

namespace LiveConsole.DictMethod

def label (m : DictMethod) : Text :=
  "dict." ++ (m.name : Text)

/-- Looks up the first argument; the second stands in for a missing entry. -/
def lookUp (m : DictMethod) (entries : Entries) (args : List Value) :
    Run (Value × Option Value × Option Value) := do
  Arguments.between m.name 1 2 args
  let key := args.headD .none
  Run.requireKey key
  return (key, Entries.find? key entries, args[1]?)

def apply (m : DictMethod) (a : Address) (args : List Value) (named : Names) : Run Value := do
  if m ≠ .update then Arguments.unnamed m.label named
  let entries := ((← Run.machine).dict? (.ref a)).getD []
  match m with
  | .clear =>
    Arguments.nothing m.label args
    Run.store a (.dict [])
    return .none
  | .copy =>
    Arguments.nothing m.label args
    Run.newDict entries
  | .keys =>
    Arguments.nothing m.label args
    return .view .keys a
  | .values =>
    Arguments.nothing m.label args
    return .view .values a
  | .items =>
    Arguments.nothing m.label args
    return .view .items a
  | .get =>
    let (_, found, other) ← lookUp m entries args
    return (found.or other).getD .none
  | .pop =>
    let (key, found, other) ← lookUp m entries args
    match found with
    | some v =>
      Run.store a (.dict (Entries.drop key entries))
      return v
    | none =>
      match other with
      | some v => return v
      | none => Run.raiseWith .keyError [key]
  | .setDefault =>
    let (key, found, other) ← lookUp m entries args
    match found with
    | some v => return v
    | none =>
      let v := other.getD .none
      Run.store a (.dict (Entries.put key v entries))
      return v
  | .update =>
    Run.store a (.dict (← Conversion.entries "update" entries args named))
    return .none

end LiveConsole.DictMethod
