import LiveConsole.Object.Store
import LiveConsole.Fault

/-!
# Running

A run works on a machine and ends with a result or with the error that was raised. What was done
to the machine before an error stays.
-/

set_option autoImplicit false

namespace LiveConsole

abbrev Run (α : Type) : Type := ExceptT Value (StateM Machine) α

/-- How a sequence of statements ended. -/
inductive Flow where
  | next
  | broke
  | continued
  | returned (v : Value)
deriving Inhabited

namespace Run

variable {α : Type}

def machine : Run Machine := get

def alloc (c : Cell) : Run Address :=
  modifyGet fun m => m.push c

def store (a : Address) (c : Cell) : Run Unit :=
  modify fun m => m.put a c

def newList (items : Array Value) : Run Value :=
  return .ref (← alloc (.list items))

def newDict (entries : Entries) : Run Value :=
  return .ref (← alloc (.dict entries))

def newError (kind : ErrorKind) (args : List Value) : Run Value :=
  return .ref (← alloc (.error (.kind (.error kind)) args []))

def raiseWith (kind : ErrorKind) (args : List Value) : Run α := do
  throw (← newError kind args)

def raise (kind : ErrorKind) (message : Text) : Run α :=
  raiseWith kind [.text message]

def raiseType (message : Text) : Run α :=
  raise .typeError message

def raiseValue (message : Text) : Run α :=
  raise .valueError message

def typeOf (v : Value) : Run Value :=
  return (← machine).typeOf v

def typeName (v : Value) : Run Text :=
  return (← machine).typeName v

/-- Runs with something put into the machine and takes it out in the end, also after an error. -/
def between {β : Type} (part : Machine → β) (put : β → Machine → Machine) (change : β → β)
    (r : Run α) : Run α := do
  let before := part (← machine)
  modify (put (change before))
  let result ← tryCatch (r.map Except.ok) fun e => return Except.error e
  modify (put before)
  MonadExcept.ofExcept result

/-- How many calls may be under way. -/
def callLimit : Nat := 990

/-- Runs with one more call under way. -/
def deeper (r : Run α) : Run α := do
  if (← machine).depth ≥ callLimit then
    raise .recursionError "maximum recursion depth exceeded"
  else
    between Machine.depth (fun n m => { m with depth := n }) (· + 1) r

/-- Runs while an error counts as being handled. -/
def handling (e : Value) (r : Run α) : Run α :=
  between Machine.handled (fun es m => { m with handled := es }) (e :: ·) r

/-- Runs while a container is being written out. -/
def showing (a : Address) (r : Run α) : Run α :=
  between Machine.showing (fun as m => { m with showing := as }) (a :: ·) r

end Run

namespace Value

mutual

/-- Builds a value from a datum. -/
def ofDatum : Datum → Run Value
  | .null => return .none
  | .flag b => return .flag b
  | .int n => return .int n
  | .float x => return .float x
  | .text t => return .text t
  | .octets bs => return .octets bs
  | .list items => do Run.newList (← ofData items).toArray
  | .tuple items => return .tuple (← ofData items)
  | .dict entries => do Run.newDict (← ofEntries entries)

def ofData : List Datum → Run (List Value)
  | [] => return []
  | d :: rest => return (← ofDatum d) :: (← ofData rest)

def ofEntries : List (Datum × Datum) → Run Entries
  | [] => return []
  | (k, v) :: rest => return (← ofDatum k, ← ofDatum v) :: (← ofEntries rest)

end

end Value

namespace Run

def ofFault {α : Type} (f : Fault) : Run α := do
  throw (← newError f.kind (← Value.ofData f.args))

def ofExcept {α : Type} : Except Fault α → Run α
  | .ok a => return a
  | .error f => ofFault f

def ofWritten {α : Type} : Except Digits.TooLong α → Run α
  | .ok a => return a
  | .error reason => raise .valueError reason.message

end Run

namespace Entries

def find? (key : Value) : Entries → Option Value
  | [] => none
  | (k, v) :: rest => if Value.equalKeys k key then some v else find? key rest

/-- A key already there keeps its place. -/
def put (key value : Value) : Entries → Entries
  | [] => [(key, value)]
  | (k, v) :: rest =>
    if Value.equalKeys k key then (k, value) :: rest else (k, v) :: put key value rest

def drop (key : Value) : Entries → Entries
  | [] => []
  | (k, v) :: rest => if Value.equalKeys k key then rest else (k, v) :: drop key rest

end Entries

namespace Run

/-- Refuses a value that cannot be a key. -/
def requireKey (key : Value) : Run Unit := do
  let m ← machine
  match m.unhashable? key with
  | none => return ()
  | some v => raiseType ("unhashable type: '" ++ m.typeName v ++ "'")

end Run

end LiveConsole
