import LiveConsole.Net.Clock
import LiveConsole.Net.Sockets

/-!
# The loopback network

A network inside one process. It knows its sockets by number, keeps what is under way between the
ends of each connection, and advances its clock only when somebody waits. Each call is recorded;
calls can be made to fail. A peer is the calling side of a connection without a socket of its own.
-/

set_option autoImplicit false

namespace LiveConsole.Net

open Datum (Quantity)

/-- The calls that can be made to fail. -/
inductive Call where
  | create
  | setOption
  | bind
  | listen
  | setTimeout
  | accept
  | receive
  | sendAll
  | close
  | connect
deriving DecidableEq

namespace Call

def all : List Call :=
  [.create, .setOption, .bind, .listen, .setTimeout, .accept, .receive, .sendAll, .close, .connect]

def name : Call → String
  | .create => "socket"
  | .setOption => "setsockopt"
  | .bind => "bind"
  | .listen => "listen"
  | .setTimeout => "settimeout"
  | .accept => "accept"
  | .receive => "recv"
  | .sendAll => "sendall"
  | .close => "close"
  | .connect => "connect"

def ofName? (name : String) : Option Call :=
  all.find? fun c => c.name == name

end Call

/-- A planned failure: after `skip` calls that pass, `times` calls fail. -/
structure Mishap where
  call : Call
  fault : Fault
  skip : Nat
  times : Nat

namespace Mishap

/-- Asks whether a call fails, and notes that it was asked. -/
def ask (call : Call) (m : Mishap) : Bool × Mishap :=
  if m.call ≠ call then (false, m)
  else if m.skip > 0 then (false, { m with skip := m.skip - 1 })
  else if m.times > 0 then (true, { m with times := m.times - 1 })
  else (false, m)

/-- Asks planned failures in order until one says that the call fails. -/
def askAll (call : Call) : List Mishap → Option Fault × List Mishap
  | [] => (none, [])
  | m :: rest =>
    match m.ask call with
    | (true, m) => (some m.fault, m :: rest)
    | (false, m) =>
      let (f, rest) := askAll call rest
      (f, m :: rest)

end Mishap

/-- One end of a connection: what has arrived there, and whether this end is gone. -/
structure End where
  arrived : List (List UInt8)
  closed : Bool
  reset : Bool

def End.fresh : End := ⟨[], false, false⟩

inductive Side where
  | calling
  | called
deriving DecidableEq

def Side.other : Side → Side
  | .calling => .called
  | .called => .calling

structure Connection where
  calling : End
  called : End
  /-- The port that the calling side seems to have. -/
  port : Nat

namespace Connection

def endAt (c : Connection) : Side → End
  | .calling => c.calling
  | .called => c.called

def putEnd (c : Connection) (s : Side) (e : End) : Connection :=
  match s with
  | .calling => { c with calling := e }
  | .called => { c with called := e }

end Connection

/-- What a socket is used for. -/
inductive Role where
  | idle
  | bound (at_ : Endpoint)
  | listening (at_ : Endpoint) (pending : List Nat)
  | connected (connection : Nat) (side : Side)

structure Socket where
  role : Role
  timeout : Option Quantity
  closed : Bool

structure Loopback where
  sockets : Array Socket
  connections : Array Connection
  nextPort : Nat
  mishaps : List Mishap
  now : Float
  events : Array Text
  notices : Array Notice

namespace Loopback

/-- The first port that is given to a socket that asks for none. -/
def firstPort : Nat := 50000

/-- The port from which the first connection seems to come. -/
def firstCallingPort : Nat := 40001

def initial : Loopback := ⟨#[], #[], firstPort, [], 0.0, #[], #[]⟩

/-- A call: it fails or has a result, and the network changes. -/
abbrev Step (α : Type) := ExceptT Fault (StateM Loopback) α

def fail {α : Type} (kind : ErrorKind) (number : Int) (reason : Text) : Step α :=
  throw ⟨kind, [.int number, .text reason]⟩

def ofWritten (r : Except Digits.TooLong Text) : Step Text :=
  match r with
  | .ok t => pure t
  | .error reason => throw (.unwritable reason)

/-- Records a call, then asks whether it is to fail. -/
def begin (call : Call) (shown : Text) : Step Unit := do
  modify fun w => { w with events := w.events.push shown }
  let (f, mishaps) := Mishap.askAll call (← get).mishaps
  modify fun w => { w with mishaps := mishaps }
  match f with
  | some f => throw f
  | none => pure ()

/-- Records a call on a socket; sockets are counted from one. -/
def beginOn (h : Nat) (call : Call) (details : Text) : Step Unit :=
  begin call (("s" : Text) ++ Text.ofNat (h + 1) ++ "." ++ call.name ++ details)

def noSocket : Socket := ⟨.idle, none, true⟩

def socket (h : Nat) : Step Socket := do
  return (← get).sockets[h]?.getD noSocket

def putSocket (h : Nat) (s : Socket) : Step Unit :=
  modify fun w => { w with sockets := w.sockets.setIfInBounds h s }

def addSocket (s : Socket) : Step Nat := do
  let h := (← get).sockets.size
  modify fun w => { w with sockets := w.sockets.push s }
  return h

/-- The socket, unless it is closed. -/
def usable (h : Nat) : Step Socket := do
  let s ← socket h
  if s.closed then fail .systemError 9 "Bad file descriptor"
  else return s

/-- The end of a connection at a side; one that does not exist is gone. -/
def endOf (connection : Nat) (side : Side) : Step End := do
  return match (← get).connections[connection]? with
    | some c => c.endAt side
    | none => ⟨[], true, false⟩

def putEnd (connection : Nat) (side : Side) (e : End) : Step Unit :=
  modify fun w =>
    { w with connections := w.connections.modify connection fun c => c.putEnd side e }

def closeEnd (connection : Nat) (side : Side) : Step Unit := do
  putEnd connection side { ← endOf connection side with closed := true }

/-- Adds a segment to what has arrived at an end. -/
def deliver (connection : Nat) (side : Side) (segment : List UInt8) : Step Unit := do
  let e ← endOf connection side
  putEnd connection side { e with arrived := e.arrived ++ [segment] }

/-- The address that a host name stands for. -/
def address (host : Datum) : Step Text :=
  match host with
  | .text t =>
    if t = "localhost" ∨ t = "127.0.0.1" then return "127.0.0.1"
    else if t = "0.0.0.0" ∨ t = [] then return "0.0.0.0"
    else fail .addressError (-2) "Name or service not known"
  | _ => fail .addressError (-2) "Name or service not known"

def Socket.holds (port : Nat) (s : Socket) : Bool :=
  !s.closed && match s.role with
    | .bound e | .listening e _ => e.port == port
    | _ => false

/-- The socket that listens at a port, with its connections that nobody has accepted. -/
def listener? (port : Int) (w : Loopback) : Option (Nat × Endpoint × List Nat) :=
  w.sockets.toList.zipIdx.findSome? fun (s, h) =>
    match s.role with
    | .listening e pending => if !s.closed && e.port = port then some (h, e, pending) else none
    | _ => none

/-- Waits as long as the timeout says, in vain. -/
def wait {α : Type} (timeout : Option Quantity) : Step α := do
  let seconds := match timeout with
    | some (.int n) => Binary64.ofInt n
    | some (.float x) => x
    | none => 0.0
  if seconds == 0.0 then fail .blockingError 11 "Resource temporarily unavailable"
  else
    modify fun w => { w with now := w.now + seconds }
    throw (.said .timeoutError "timed out")

def create : Step Nat := do
  begin .create "socket AF_INET SOCK_STREAM"
  addSocket ⟨.idle, none, false⟩

def reuseAddress (h : Nat) : Step Unit := do
  beginOn h .setOption " SOL_SOCKET SO_REUSEADDR 1"
  let _ ← usable h

/-- The port asked for, or for zero the next one of the network's own. -/
def choosePort (port : Nat) : Step Nat := do
  if port ≠ 0 then return port
  else
    let chosen := (← get).nextPort
    modify fun w => { w with nextPort := chosen + 1 }
    return chosen

def bind (h : Nat) (host : Datum) (port : Nat) : Step Unit := do
  beginOn h .bind (" " ++ (← ofWritten host.plain) ++ " " ++ Text.ofNat port)
  let s ← usable h
  let a ← address host
  let port ← choosePort port
  if (← get).sockets.any (Socket.holds port) then
    fail .systemError 98 "Address already in use"
  else putSocket h { s with role := .bound ⟨a, port⟩ }

def listen (h : Nat) (backlog : Nat) : Step Unit := do
  beginOn h .listen (" " ++ (← ofWritten (Datum.int backlog).plain))
  let s ← usable h
  match s.role with
  | .bound e => putSocket h { s with role := .listening e [] }
  | _ => pure ()

def setTimeout (h : Nat) (timeout : Quantity) : Step Unit := do
  beginOn h .setTimeout (" " ++ (← ofWritten timeout.datum.literal))
  let s ← usable h
  putSocket h { s with timeout := some timeout }

def accept (h : Nat) : Step (Nat × Endpoint) := do
  beginOn h .accept []
  let s ← usable h
  match s.role with
  | .listening e (first :: rest) =>
    putSocket h { s with role := .listening e rest }
    let port := match (← get).connections[first]? with
      | some c => c.port
      | none => 0
    return (← addSocket ⟨.connected first .called, none, false⟩, ⟨"127.0.0.1", port⟩)
  | _ => wait s.timeout

def receive (h : Nat) (size : Nat) : Step (List UInt8) := do
  beginOn h .receive (" " ++ Text.ofNat size)
  let s ← usable h
  match s.role with
  | .connected connection side =>
    let near ← endOf connection side
    let far ← endOf connection side.other
    match near.arrived with
    | segment :: rest =>
      let left := segment.drop size
      putEnd connection side { near with arrived := if left.isEmpty then rest else left :: rest }
      return segment.take size
    | [] =>
      if far.reset then fail .connectionResetError 104 "Connection reset by peer"
      else if far.closed then return []
      else wait s.timeout
  | _ => wait s.timeout

def sendAll (h : Nat) (data : List UInt8) : Step Unit := do
  beginOn h .sendAll (" " ++ Text.ofNat data.length)
  let s ← usable h
  match s.role with
  | .connected connection side =>
    let far ← endOf connection side.other
    if far.closed || far.reset then fail .brokenPipeError 32 "Broken pipe"
    else deliver connection side.other data
  | _ => pure ()

/-- Closes a socket. Connections that wait there are closed with it. -/
def close (h : Nat) : Step Unit := do
  beginOn h .close []
  let s ← socket h
  if s.closed then pure ()
  else
    putSocket h { s with closed := true }
    match s.role with
    | .connected connection side => closeEnd connection side
    | .listening _ pending => pending.forM fun connection => closeEnd connection .called
    | _ => pure ()

/-- A new connection to a port, waiting to be accepted. -/
def call (port : Int) : Step Nat := do
  match listener? port (← get) with
  | none => fail .connectionRefusedError 111 "Connection refused"
  | some (h, e, pending) =>
    let connection := (← get).connections.size
    let made : Connection := ⟨End.fresh, End.fresh, firstCallingPort + connection⟩
    modify fun w => { w with connections := w.connections.push made }
    let s ← socket h
    putSocket h { s with role := .listening e (pending ++ [connection]) }
    return connection

def connect (host : Datum) (port : Int) (timeout : Quantity) : Step Nat := do
  begin .connect (("connect " : Text) ++ (← ofWritten host.plain) ++ " "
    ++ (← ofWritten (Datum.int port).plain) ++ " " ++ (← ofWritten timeout.datum.literal))
  let _ ← address host
  let connection ← call port
  addSocket ⟨.connected connection .calling, some timeout, false⟩

/-- The address of a bound socket, which can always be told. -/
def endpoint (h : Nat) (w : Loopback) : Endpoint :=
  match w.sockets[h]? with
  | some ⟨.bound e, _, _⟩ | some ⟨.listening e _, _, _⟩ => e
  | _ => ⟨"0.0.0.0", 0⟩

instance : Sockets Loopback Nat where
  create := create.run.run
  reuseAddress h := (reuseAddress h).run.run
  bind h host port := (bind h host port).run.run
  listen h backlog := (listen h backlog).run.run
  setTimeout h t := (setTimeout h t).run.run
  accept h := (accept h).run.run
  receive h size := (receive h size).run.run
  sendAll h data := (sendAll h data).run.run
  close h := (close h).run.run
  connect host port t := (connect host port t).run.run
  endpoint h w := (.ok (endpoint h w), w)
  note n w := { w with notices := w.notices.push n }

instance : Clock Loopback Float where
  now w := w.now
  span
    | .int n => Binary64.ofInt n
    | .float x => x
  sleep t w := { w with now := w.now + t }

/-- Sends octets, unless there are none or the peer is gone. -/
def peerWrite (connection : Nat) (data : List UInt8) : Step Unit := do
  let e ← endOf connection .calling
  if data.isEmpty || e.closed || e.reset then pure ()
  else deliver connection .called data

/-- All that has arrived, and whether the other side has closed. -/
def peerRead (connection : Nat) : Step (List UInt8 × Bool) := do
  let near ← endOf connection .calling
  let far ← endOf connection .called
  putEnd connection .calling { near with arrived := [] }
  return (near.arrived.flatten, far.closed)

def peerReset (connection : Nat) : Step Unit := do
  putEnd connection .calling { ← endOf connection .calling with reset := true }

/-- Plans a failure behind those planned already. -/
def plan (m : Mishap) (w : Loopback) : Loopback :=
  { w with mishaps := w.mishaps ++ [m] }

/-- The network without its records. -/
def forget (w : Loopback) : Loopback :=
  { w with events := #[], notices := #[] }

end Loopback

end LiveConsole.Net
