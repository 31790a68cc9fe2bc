import LiveConsole.Fault

/-!
# Sockets

The calls by which a program reaches a network. Each call may fail; whatever happens, the world
moves on. The calls are answered by an instance of `Sockets`, so that what is said of servers and
clients holds in every network.
-/

set_option autoImplicit false

namespace LiveConsole.Net

open Datum (Quantity)

/-- One end of a connection. -/
structure Endpoint where
  host : Text
  port : Nat

/-- What a program reports besides its answers. -/
inductive Notice where
  | clientConnected (from_ : Endpoint)
  | clientUnusable (from_ : Endpoint) (why : Fault)
  | clientDisconnected
  | lineTooLong (limit : Nat)
  | sendFailed (why : Fault)
  | serverStarted (at_ : Endpoint)
  | serverStopping
  | notBound (why : Fault)

/-- The calls on sockets in a world `W`, whose sockets are named by `H`. -/
class Sockets (W : Type) (H : outParam Type) where
  create : W → Except Fault H × W
  reuseAddress : H → W → Except Fault Unit × W
  bind : H → Datum → Nat → W → Except Fault Unit × W
  listen : H → Nat → W → Except Fault Unit × W
  setTimeout : H → Quantity → W → Except Fault Unit × W
  accept : H → W → Except Fault (H × Endpoint) × W
  receive : H → Nat → W → Except Fault (List UInt8) × W
  sendAll : H → List UInt8 → W → Except Fault Unit × W
  close : H → W → Except Fault Unit × W
  connect : Datum → Int → Quantity → W → Except Fault H × W
  /-- Asks a bound socket for its address. -/
  endpoint : H → W → Except Fault Endpoint × W
  note : Notice → W → W

namespace Sockets

variable {W H α : Type}

/-- A call that leaves the rest of a larger world alone. -/
def within {S : Type} (call : W → α × W) (world : S × W) : α × S × W :=
  let (a, w) := call world.2
  (a, world.1, w)

instance {S : Type} [Sockets W H] : Sockets (S × W) H where
  create := within create
  reuseAddress h := within (reuseAddress h)
  bind h host port := within (bind h host port)
  listen h backlog := within (listen h backlog)
  setTimeout h t := within (setTimeout h t)
  accept h := within (accept h)
  receive h size := within (receive h size)
  sendAll h data := within (sendAll h data)
  close h := within (close h)
  connect host port t := within (connect host port t)
  endpoint h := within (endpoint h)
  note n world := (world.1, note n world.2)

end Sockets

/-- The message of a fault; one that cannot be written has none. -/
def reason (f : Fault) : Text :=
  match f.message with
  | .ok t => t
  | .error _ => []

def Endpoint.text (e : Endpoint) : Text :=
  e.host ++ ":" ++ Text.ofNat e.port

namespace Notice

inductive Level where
  | debug
  | info
  | warning
  | error
deriving DecidableEq

def level : Notice → Level
  | clientConnected _ | clientDisconnected | serverStarted _ => .info
  | clientUnusable _ _ | sendFailed _ | serverStopping => .debug
  | lineTooLong _ => .warning
  | notBound _ => .error

/-- Whether a notice is about the server as a whole and not about its listener. -/
def isOfServer : Notice → Bool
  | serverStarted _ | serverStopping | notBound _ => true
  | _ => false

def message : Notice → Text
  | clientConnected e => "Client connected from " ++ e.text
  | clientUnusable e why => "Dropping connection from " ++ e.text ++ ": " ++ reason why
  | clientDisconnected => "Client disconnected"
  | lineTooLong limit => "Dropping client: line exceeds " ++ Text.ofNat limit ++ " bytes"
  | sendFailed why => "Send failed: " ++ reason why
  | serverStarted e => "REPL server started on " ++ e.text
  | serverStopping => "REPL server stopping"
  | notBound why => reason why

end Notice

end LiveConsole.Net
