import LiveConsole.Message
import LiveConsole.Net.Clock
import LiveConsole.Net.Line
import LiveConsole.Net.Sockets

/-!
# The client

A client sends requests and waits for messages, one JSON value a line. What has arrived beyond a
message stays for the next call, also when a call gives up waiting.
-/

set_option autoImplicit false

namespace LiveConsole.Net

open Datum (Quantity)

structure Client (H : Type) where
  host : Datum
  port : Int
  timeout : Quantity
  /-- How deep arrays and objects of a message may nest inside the outermost. -/
  room : Nat
  socket : Option H
  buffer : List UInt8

namespace Client

/-- The calls that need a connection. -/
inductive Call where
  | setTimeout
  | receive
  | sendAll
deriving DecidableEq

def Call.name : Call → String
  | .setTimeout => "settimeout"
  | .receive => "recv"
  | .sendAll => "sendall"

/-- Why a call of a client has no result. -/
inductive Failure where
  | fault (f : Fault)
  | notConnected (call : Call)
  | timedOut (limit : Quantity)
  | closed
  | undecodable (u : Utf8.Undecodable)
  | unencodable (u : Utf8.Unencodable)
  | notJson (problem : Json.Problem)

def timeoutFault (limit : Quantity) : Fault :=
  match limit.datum.plain with
  | .ok shown => .said .replTimeout ("No message within " ++ shown ++ "s")
  | .error reason => .unwritable reason

def problemFault (problem : Json.Problem) : Fault :=
  let kind : ErrorKind := match problem with
    | .malformed _ _ _ _ => .jsonDecodeError
    | .tooLong _ => .valueError
    | .tooDeep _ => .recursionError
  .said kind problem.message

def Failure.toFault : Failure → Fault
  | .fault f => f
  | .notConnected call =>
    .said .attributeError ("'NoneType' object has no attribute '" ++ (call.name : Text) ++ "'")
  | .timedOut limit => timeoutFault limit
  | .closed => .said .connectionError "Server closed the connection"
  | .undecodable u => .said .unicodeDecodeError u.message
  | .unencodable u => .said .unicodeEncodeError u.message
  | .notJson problem => problemFault problem

variable {W H : Type} [Sockets W H]

def new (host : Datum) (port : Int) (timeout : Quantity) (room : Nat) : Client H :=
  ⟨host, port, timeout, room, none, []⟩

def defaultHost : Datum := .text "127.0.0.1"

def defaultPort : Int := 8172

def defaultTimeout : Quantity := .float 5.0

/-- How long a poll reads before it ticks again, unless another time is given. -/
def defaultInterval : Quantity := .float 0.01

def isConnected (c : Client H) : Bool := c.socket.isSome

/-- Connects anew. What an earlier connection left behind is forgotten. -/
def connect (c : Client H) (w : W) : Except Failure Unit × Client H × W :=
  match Sockets.connect c.host c.port c.timeout w with
  | (.ok h, w) => (.ok (), { c with socket := some h, buffer := [] }, w)
  | (.error f, w) => (.error (.fault f), c, w)

def close (c : Client H) (w : W) : Except Failure Unit × Client H × W :=
  match c.socket with
  | none => (.ok (), c, w)
  | some h =>
    match Sockets.close h w with
    | (.ok (), w) => (.ok (), { c with socket := none }, w)
    | (.error f, w) => (.error (.fault f), c, w)

/-- Sends octets, if there is a connection and the octets could be made. -/
def send (c : Client H) (data : Except Failure (List UInt8)) (w : W) : Except Failure Unit × W :=
  match c.socket, data with
  | none, _ => (.error (.notConnected .sendAll), w)
  | some _, .error e => (.error e, w)
  | some h, .ok octets =>
    match Sockets.sendAll h octets w with
    | (.ok (), w) => (.ok (), w)
    | (.error f, w) => (.error (.fault f), w)

def sendLine (c : Client H) (line : Text) (w : W) : Except Failure Unit × W :=
  c.send (match Utf8.encodeStrict line with
    | .ok octets => .ok (octets ++ [0x0A])
    | .error u => .error (.unencodable u)) w

def sendRequest (c : Client H) (r : Request) (w : W) : Except Failure Unit × W :=
  c.send (.ok r.encode) w

/-- How many octets are asked for at a time. -/
def chunkSize : Nat := 4096

/-- The message of a line; null is none. -/
def message? (room : Nat) (line : List UInt8) : Except Failure (Option Datum) :=
  match Utf8.decodeStrict line with
  | .error u => .error (.undecodable u)
  | .ok text =>
    match Json.read room text with
    | .error problem => .error (.notJson problem)
    | .ok .null => .ok none
    | .ok d => .ok (some d)

/-- Takes a line from the buffer, if one is complete, and reads it. -/
def popMessage (c : Client H) : Except Failure (Option Datum) × Client H :=
  match splitLine? c.buffer with
  | none => (.ok none, c)
  | some (line, rest) => (message? c.room line, { c with buffer := rest })

/-- How a wait ended: with a message, with a failure, or not within the rounds it was given. -/
inductive Ending (ε : Type) where
  | message (d : Datum)
  | failed (e : ε)
  | unfinished

/-- Waits for a message. -/
def readMessage : (rounds : Nat) → Client H → W → Ending Failure × Client H × W
  | 0, c, w => (.unfinished, c, w)
  | more + 1, c, w =>
    match c.popMessage with
    | (.error e, c) => (.failed e, c, w)
    | (.ok (some d), c) => (.message d, c, w)
    | (.ok none, c) =>
      match c.socket with
      | none => (.failed (.notConnected .receive), c, w)
      | some h =>
        match Sockets.receive h chunkSize w with
        | (.error f, w) =>
          (.failed (if f.isA .timeoutError then .timedOut c.timeout else .fault f), c, w)
        | (.ok [], w) => (.failed .closed, c, w)
        | (.ok chunk, w) => readMessage more { c with buffer := c.buffer ++ chunk } w

/-- Sends a request and waits for a message. -/
def evaluate (rounds : Nat) (c : Client H) (r : Request) (w : W) :
    Ending Failure × Client H × W :=
  match c.sendRequest r w with
  | (.error e, w) => (.failed e, c, w)
  | (.ok (), w) => readMessage rounds c w

/-- What ends a poll besides a message: a failure of the client's own or one of its tick. -/
inductive Interruption (ε : Type) where
  | own (e : Failure)
  | tick (e : ε)

/-- What a poll waits for: until when, and what it calls meanwhile. -/
structure Patience (W τ ε : Type) where
  limit : Quantity
  deadline : τ
  tick : W → Except ε Unit × W

variable {τ ε : Type} [Clock W τ] [LT τ] [DecidableLT τ]

/-- Ticks and reads by turns until there is a message or it is too late. -/
def await (p : Patience W τ ε) (h : H) :
    (rounds : Nat) → Client H → W → Ending (Interruption ε) × Client H × W
  | 0, c, w => (.unfinished, c, w)
  | more + 1, c, w =>
    match c.popMessage with
    | (.error e, c) => (.failed (.own e), c, w)
    | (.ok (some d), c) => (.message d, c, w)
    | (.ok none, c) =>
      if p.deadline < Clock.now w then (.failed (.own (.timedOut p.limit)), c, w)
      else
        match p.tick w with
        | (.error e, w) => (.failed (.tick e), c, w)
        | (.ok (), w) =>
          match Sockets.receive h chunkSize w with
          | (.error f, w) =>
            if f.isA .timeoutError then await p h more c w
            else (.failed (.own (.fault f)), c, w)
          | (.ok [], w) => (.failed (.own .closed), c, w)
          | (.ok chunk, w) => await p h more { c with buffer := c.buffer ++ chunk } w

/-- Gives the socket its own timeout back. -/
def restore (h : H) (c : Client H) (ending : Ending (Interruption ε)) (w : W) :
    Ending (Interruption ε) × W :=
  match Sockets.setTimeout h c.timeout w with
  | (.ok (), w) => (ending, w)
  | (.error f, w) => (.failed (.own (.fault f)), w)

/-- Whether a length of time can be added to the time of a clock. An integer may be too large. -/
def isMeasurable : Quantity → Bool
  | .float _ => true
  | .int n =>
    match Binary64.parts (Binary64.ofInt n) with
    | .infinite _ => false
    | _ => true

def immeasurable : Fault := .said .overflowError "int too large to convert to float"

/-- Calls `tick` until a message arrives, `interval` apart; for a server that is ticked by the
client's own host. -/
def poll [Add τ] (rounds : Nat) (tick : W → Except ε Unit × W) (limit : Option Quantity)
    (interval : Quantity) (c : Client H) (w : W) : Ending (Interruption ε) × Client H × W :=
  let limit := limit.getD c.timeout
  if isMeasurable limit then
    let p : Patience W τ ε := ⟨limit, Clock.now w + Clock.span W limit, tick⟩
    match c.socket with
    | none => (.failed (.own (.notConnected .setTimeout)), c, w)
    | some h =>
      match Sockets.setTimeout h interval w with
      | (.error f, w) => (.failed (.own (.fault f)), c, w)
      | (.ok (), w) =>
        match await p h rounds c w with
        | (.unfinished, c, w) => (.unfinished, c, w)
        | (ending, c, w) =>
          let (ending, w) := restore h c ending w
          (ending, c, w)
  else (.failed (.own (.fault immeasurable)), c, w)

/-- A message that has arrived is returned without a look at the socket. -/
theorem readMessage_of_message {c : Client H} {line rest : List UInt8} {d : Datum}
    (hl : splitLine? c.buffer = some (line, rest)) (hm : message? c.room line = .ok (some d))
    (rounds : Nat) (w : W) :
    readMessage (rounds + 1) c w = (.message d, { c with buffer := rest }, w) := by
  simp [readMessage, popMessage, hl, hm]

end Client

end LiveConsole.Net
