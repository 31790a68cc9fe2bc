import LiveConsole.Object.Field
import LiveConsole.Object.Options

/-!
# The server that scripts start

Scripts can start and stop the server of the process, and put an object of their own in the place of the
sockets that it uses.
-/

set_option autoImplicit false

namespace LiveConsole.Serving

open Net (Endpoint Server Sockets)

/-- An error of a script as a fault. -/
def faultOf (m : Machine) (e : Value) : Fault :=
  match e with
  | .ref a =>
    match m.cell? a with
    | some (.error of args _) => ⟨(m.errorKind? of).getD .exception, args.map Value.datum⟩
    | _ => ⟨.exception, []⟩
  | _ => ⟨.exception, []⟩

def calling {α : Type} (r : Run α) (m : Machine) : Except Fault α × Machine :=
  match r.run.run m with
  | (.ok a, m) => (.ok a, m)
  | (.error e, m) => (.error (faultOf m e), m)

/-- Calls a part of a value. -/
def ask (i : Interpreter) (v : Value) (id : Text) (args : List Value) : Run Value := do
  i.call (← Field.read v id) args []

/-- A constant of what stands for the sockets. -/
def constant (id : Text) : Run Value := do
  Field.read (← Run.machine).sockets id

def endpointOf (v : Value) : Run Endpoint := do
  match v with
  | .tuple (.text host :: .int port :: _) => return ⟨host, port.toNat⟩
  | v => Run.raiseType ("cannot unpack non-iterable " ++ (← Run.typeName v) ++ " object")

/-- Sockets are objects of scripts. What is reported is lost. -/
abbrev sockets (i : Interpreter) : Sockets Machine Value where
  create := calling do
    let make ← constant "socket"
    i.call make [← constant "AF_INET", ← constant "SOCK_STREAM"] []
  reuseAddress h := calling do
    let set ← Field.read h "setsockopt"
    let _ ← i.call set [← constant "SOL_SOCKET", ← constant "SO_REUSEADDR", .int 1] []
  bind h host port := calling do
    let _ ← ask i h "bind" [.tuple [← Value.ofDatum host, .int port]]
  listen h backlog := calling do
    let _ ← ask i h "listen" [.int backlog]
  setTimeout h t := calling do
    let _ ← ask i h "settimeout" [Value.ofQuantity t]
  accept h := calling do
    match ← ask i h "accept" [] with
    | .tuple [client, address] => return (client, ← endpointOf address)
    | v => Run.raiseType ("cannot unpack non-iterable " ++ (← Run.typeName v) ++ " object")
  receive h size := calling do
    match ← ask i h "recv" [.int size] with
    | .octets bs => return bs
    | v => Run.raiseType ("can't concat " ++ (← Run.typeName v) ++ " to bytes")
  sendAll h data := calling do
    let _ ← ask i h "sendall" [.octets data]
  close h := calling do
    let _ ← ask i h "close" []
  connect host port t := calling do
    let connect ← constant "create_connection"
    i.call connect [.tuple [← Value.ofDatum host, .int port], Value.ofQuantity t] []
  endpoint h := calling do endpointOf (← ask i h "getsockname" [])
  note _ m := m

/-- Runs a step of a server in the machine. -/
def step {α : Type} (i : Interpreter)
    (r : [Sockets Machine Value] → Machine → Except Fault α × Server Value × Machine) :
    Run (Except Fault α × Server Value) :=
  modifyGet fun m =>
    let (a, s, m) := @r (sockets i) m
    ((a, s), m)

def isRunning : Run Bool :=
  return (← Run.machine).serving.any (·.running)

/-- Starts the server of the process, unless one is running. Only a server that listens becomes it. -/
def start (i : Interpreter) (args : List Value) (named : Names) : Run Value := do
  if ← isRunning then return .flag true
  if (Names.find? "context" named).isSome then Run.raise .notImplementedError []
  let s ← Options.settingsOf (← Options.make i args named)
  match ← step i (Server.new s).start with
  | (.error f, _) => Run.ofFault f
  | (.ok false, _) => return .flag false
  | (.ok true, s) =>
    modify fun m => { m with serving := some s }
    return .flag true

/-- Stops the server of the process. If that fails, it stays the one. -/
def stop (i : Interpreter) : Run Value := do
  match (← Run.machine).serving with
  | none => return .none
  | some s =>
    match ← step i s.stop with
    | (.error f, s) =>
      modify fun m => { m with serving := some s }
      Run.ofFault f
    | (.ok (), _) =>
      modify fun m => { m with serving := none }
      return .none

end LiveConsole.Serving
