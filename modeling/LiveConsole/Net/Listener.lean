import LiveConsole.Net.Line
import LiveConsole.Net.Sockets
import LiveConsole.Settings

/-!
# The listener

A listening socket with at most one client, whose bytes are handed out as lines. Calls that fail
with a system error are part of normal work; any other error is passed on, and what was done before
it stays.
-/

set_option autoImplicit false

namespace LiveConsole.Net

open Datum (Quantity)

structure Listener (H : Type) where
  settings : Settings
  server : Option H
  client : Option H
  buffer : List UInt8

namespace Listener

variable {W H : Type} [Sockets W H]

def new (s : Settings) : Listener H := ⟨s, none, none, []⟩

def isBound (l : Listener H) : Bool := l.server.isSome

def hasClient (l : Listener H) : Bool := l.client.isSome

/-- Where the listener is bound, if it is. -/
def endpoint? (l : Listener H) (w : W) : Except Fault (Option Endpoint) × W :=
  match l.server with
  | none => (.ok none, w)
  | some h =>
    let (a, w) := Sockets.endpoint h w
    (a.map some, w)

/-- The timeout that sockets get: zero unless one is set. -/
def timeout (s : Settings) : Quantity :=
  match s.timeout with
  | .whole 0 => .float 0.0
  | .whole n => .int n
  | .real x _ => if x == 0.0 then .float 0.0 else .float x

/-- Makes a new socket listen. -/
def prepare (s : Settings) (h : H) (w : W) : Except Fault Unit × W :=
  match Sockets.reuseAddress h w with
  | (.error f, w) => (.error f, w)
  | (.ok (), w) =>
    match Sockets.bind h s.host s.port.val w with
    | (.error f, w) => (.error f, w)
    | (.ok (), w) =>
      match Sockets.listen h s.backlog w with
      | (.error f, w) => (.error f, w)
      | (.ok (), w) => Sockets.setTimeout h (timeout s) w

def bindError (message : Text) (why : Fault) : Fault :=
  match why.message with
  | .ok t => .said .bindError (message ++ ": " ++ t)
  | .error reason => .unwritable reason

def failedToBind (s : Settings) (why : Fault) : Fault :=
  match s.host.plain with
  | .ok host => bindError ("Failed to bind to " ++ Endpoint.text ⟨host, s.port.val⟩) why
  | .error reason => .unwritable reason

/-- Binds and listens, unless that is done already. -/
def bind (l : Listener H) (w : W) : Except Fault Unit × Listener H × W :=
  if l.isBound then (.ok (), l, w)
  else
    match Sockets.create w with
    | (.error f, w) =>
      (.error (if f.isA .systemError then bindError "Cannot create socket" f else f), l, w)
    | (.ok h, w) =>
      match prepare l.settings h w with
      | (.ok (), w) => (.ok (), { l with server := some h }, w)
      | (.error f, w) =>
        if f.isA .systemError then
          match Sockets.close h w with
          | (.ok (), w) => (.error (failedToBind l.settings f), l, w)
          | (.error f, w) => (.error f, l, w)
        else (.error f, l, w)

/-- Takes a waiting client if there is none so far. -/
def acceptIfNone (l : Listener H) (w : W) : Except Fault Bool × Listener H × W :=
  match l.server, l.client with
  | some server, none =>
    match Sockets.accept server w with
    | (.error f, w) => if f.isA .systemError then (.ok false, l, w) else (.error f, l, w)
    | (.ok (h, e), w) =>
      match Sockets.setTimeout h (timeout l.settings) w with
      | (.ok (), w) =>
        (.ok true, { l with client := some h, buffer := [] },
          Sockets.note (.clientConnected e) w)
      | (.error f, w) =>
        if f.isA .systemError then
          match Sockets.close h (Sockets.note (.clientUnusable e f) w) with
          | (.ok (), w) => (.ok false, l, w)
          | (.error f, w) => (.error f, l, w)
        else (.error f, l, w)
  | _, _ => (.ok false, l, w)

/-- Forgets the client. -/
def dropClient (l : Listener H) (w : W) : Except Fault Unit × Listener H × W :=
  let dropped : Listener H := { l with client := none, buffer := [] }
  match l.client with
  | none => (.ok (), dropped, w)
  | some h =>
    match Sockets.close h w with
    | (.ok (), w) => (.ok (), dropped, w)
    | (.error f, w) => if f.isA .systemError then (.ok (), dropped, w) else (.error f, l, w)

/-- Takes a complete line from the buffer. -/
def popLine (l : Listener H) : Option Text × Listener H :=
  match splitLine? l.buffer with
  | none => (none, l)
  | some (line, rest) => (some (lineText line), { l with buffer := rest })

/-- What the client sent: nothing at its end, none if there is nothing yet. -/
def receiveChunk (h : H) (size : Nat) (w : W) : Except Fault (Option (List UInt8)) × W :=
  match Sockets.receive h size w with
  | (.ok chunk, w) => (.ok (some chunk), w)
  | (.error f, w) =>
    if f.isA .connectionError then (.ok (some []), w)
    else if f.isA .systemError then (.ok none, w)
    else (.error f, w)

def dropping (r : Except Fault Unit × Listener H × W) :
    Except Fault (Option Text) × Listener H × W :=
  (r.1.map fun _ => none, r.2)

/-- Adds what was received to the buffer and takes a line from it. A client whose line grows too
long is dropped. -/
def takeChunk (l : Listener H) (chunk : List UInt8) (w : W) :
    Except Fault (Option Text) × Listener H × W :=
  match popLine { l with buffer := l.buffer ++ chunk } with
  | (some line, l) => (.ok (some line), l, w)
  | (none, l) =>
    if l.buffer.length > l.settings.maxLine then
      dropping (dropClient l (Sockets.note (.lineTooLong l.settings.maxLine) w))
    else (.ok none, l, w)

/-- The next complete line, if there is one. The socket is read once, and only when no line is
left in the buffer. -/
def receiveLine (l : Listener H) (w : W) : Except Fault (Option Text) × Listener H × W :=
  match l.client with
  | none => (.ok none, l, w)
  | some h =>
    match popLine l with
    | (some line, l) => (.ok (some line), l, w)
    | (none, l) =>
      match receiveChunk h l.settings.recvSize w with
      | (.error f, w) => (.error f, l, w)
      | (.ok none, w) => (.ok none, l, w)
      | (.ok (some []), w) => dropping (dropClient l (Sockets.note .clientDisconnected w))
      | (.ok (some chunk), w) => takeChunk l chunk w

/-- Sends to the client and tells whether that worked. -/
def send (l : Listener H) (data : List UInt8) (w : W) : Except Fault Bool × W :=
  match l.client with
  | none => (.ok false, w)
  | some h =>
    match Sockets.sendAll h data w with
    | (.ok (), w) => (.ok true, w)
    | (.error f, w) =>
      if f.isA .systemError then (.ok false, Sockets.note (.sendFailed f) w) else (.error f, w)

def close (l : Listener H) (w : W) : Except Fault Unit × Listener H × W :=
  match dropClient l w with
  | (.error f, l, w) => (.error f, l, w)
  | (.ok (), l, w) =>
    match l.server with
    | none => (.ok (), l, w)
    | some h =>
      match Sockets.close h w with
      | (.ok (), w) => (.ok (), { l with server := none }, w)
      | (.error f, w) => (.error f, l, w)

/-- Without a client nothing is read. -/
theorem receiveLine_of_no_client {l : Listener H} (h : l.client = none) (w : W) :
    receiveLine l w = (.ok none, l, w) := by
  simp [receiveLine, h]

/-- A complete line is handed out without a look at the socket. -/
theorem receiveLine_of_line {l : Listener H} {h : H} {line rest : List UInt8}
    (hc : l.client = some h) (hl : splitLine? l.buffer = some (line, rest)) (w : W) :
    receiveLine l w = (.ok (some (lineText line)), { l with buffer := rest }, w) := by
  simp [receiveLine, hc, popLine, hl]

end Listener

end LiveConsole.Net
