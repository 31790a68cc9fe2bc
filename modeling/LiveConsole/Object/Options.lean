import LiveConsole.Object.Arguments
import LiveConsole.Object.Operation
import LiveConsole.Settings

/-!
# Settings made by scripts

Scripts can make settings of the console of values of their own, which are asked by way of the operations
on values.
-/

set_option autoImplicit false

namespace LiveConsole

namespace Interpreter

def isOfKind (k : Kind) (v : Value) : Run Bool := do
  let m ← Run.machine
  return m.isBelow (m.typeOf v) (.kind k)

/-- Values are asked by their kinds and by the operations on them, which can run code. -/
def gauge (i : Interpreter) : Gauge Value Value Machine where
  int := .int
  text := .text
  isFlag v := (isOfKind .flag v).run.run
  isInt v := (isOfKind .int v).run.run
  isNumber v := (do return (← isOfKind .int v) || (← isOfKind .float v) : Run Bool).run.run
  atMost a b := (Operation.compare .lessEqual a b).run.run
  below a b := (Operation.compare .less a b).run.run
  literal v := (i.literal v).run.run

end Interpreter

namespace Options

/-- A refusal is raised as an error, or passes on the error that a value raised. -/
def accept {α : Type} (r : Machine → Except (Settings.Refusal Value) α × Machine) : Run α := do
  match ← modifyGet r with
  | .ok a => return a
  | .error refusal =>
    match refusal.fault with
    | .ok f => Run.ofFault f
    | .error e => throw e

def layerOf (entries : Entries) : List (Datum × Value) :=
  entries.map fun (k, v) => (k.datum, v)

/-- Lays entries over settings. No entries leave the very same settings. -/
def lay (i : Interpreter) (base : Value) (entries : Entries) : Run Value := do
  match base with
  | .ref a =>
    match (← Run.machine).cell? a with
    | some (.settings d) =>
      if entries.isEmpty then return base
      else
        return .ref (← Run.alloc (.settings (← accept (Settings.lay i.gauge d (layerOf entries)))))
    | _ => return base
  | base => return base

/-- The entries that a value brings: those of a dictionary, and none if it counts as false. -/
def entriesOf (v : Value) : Run Entries := do
  match (← Run.machine).dict? v with
  | some entries => return entries
  | none =>
    if ← Operation.isTrue v then
      Run.raiseType ("'" ++ (← Run.typeName v) ++ "' object is not a mapping")
    else return []

/-- The settings at first. -/
def initial (i : Interpreter) : Run Value := do
  let d := Settings.initialDraft i.gauge
  accept (Settings.check i.gauge d Settings.ruled)
  return .ref (← Run.alloc (.settings d))

/-- Settings to start from: those that are given, or the initial ones with a layer. -/
def base (i : Interpreter) (v : Value) : Run Value := do
  if (← Run.typeOf v).same (.kind .settings) then return v
  else
    let first ← initial i
    lay i first (← entriesOf v)

/-- The settings of `make_config`. -/
def make (i : Interpreter) (args : List Value) (named : Names) : Run Value := do
  if args.length > 1 then
    Run.raiseType ("make_config() takes from 0 to 1 positional arguments but "
      ++ Text.ofNat args.length ++ " were given")
  let given := Names.find? "config" named
  if args.length = 1 && given.isSome then
    Run.raiseType "make_config() got multiple values for argument 'config'"
  let s ← base i ((args.head?.or given).getD .none)
  lay i s ((Names.drop "config" named).map fun (id, v) => (.text id, v))

/-- The settings of the method `merged`. -/
def mergeOnto (i : Interpreter) (args : List Value) : Run Value := do
  match args with
  | [self, overrides] => lay i self (← entriesOf overrides)
  | args =>
    Run.raiseType ("ReplConfig.merged() takes 2 positional arguments but "
      ++ Text.ofNat args.length ++ " were given")

/-- The settings that a server runs with; only data are settings of one. -/
def settingsOf (v : Value) : Run Settings := do
  match v with
  | .ref a =>
    match (← Run.machine).cell? a with
    | some (.settings d) =>
      let data := fun s => (d s).datum
      match h : Settings.check Settings.gauge data Settings.ruled () with
      | (.ok (), _) => return Settings.ofDraft data (Settings.valid_of_check h)
      | _ => Run.raise .notImplementedError []
    | _ => Run.raise .notImplementedError []
  | _ => Run.raise .notImplementedError []

end Options

end LiveConsole
