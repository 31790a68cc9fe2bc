import LiveConsole.Net.Client
import LiveConsole.Net.Server
import LiveConsole.Proofs.Net.Listening
import LiveConsole.Proofs.Net.Schedule

/-!
# Two ends of a connection

A connection with its server at one end and a client at the other. Octets stay on their way until the other
end takes them; how many it takes at a time, when the server is ticked and when the client gives up
waiting is laid down beforehand.
-/

namespace LiveConsole.Net
set_option autoImplicit false

structure Link where
  /-- Whether a client has called and was not accepted yet. -/
  calling : Bool
  /-- What the client has sent and the server has not received. -/
  requests : List UInt8
  /-- What the server has sent and the client has not received. -/
  responses : List UInt8
  /-- Whether the server has closed its end. -/
  closed : Bool
  /-- The server receives at most one octet more than this at a time. -/
  portion : Nat

namespace Link

def fresh : Link := ⟨true, [], [], false, 0⟩

/-- As much as there is, up to a portion. -/
def receive (size : Nat) (w : Link) : Except Fault (List UInt8) × Link :=
  match w.requests with
  | [] => (.error Schedule.tryAgain, w)
  | octets =>
    let n := min (w.portion + 1) size
    (.ok (octets.take n), { w with requests := octets.drop n })

def accept (w : Link) : Except Fault (Unit × Endpoint) × Link :=
  if w.calling then (.ok ((), ⟨"127.0.0.1", 0⟩), { w with calling := false })
  else (.error Schedule.tryAgain, w)

instance : Sockets Link Unit where
  create w := (.ok (), w)
  reuseAddress _ w := (.ok (), w)
  bind _ _ _ w := (.ok (), w)
  listen _ _ w := (.ok (), w)
  setTimeout _ _ w := (.ok (), w)
  accept _ := accept
  receive _ := receive
  sendAll _ data w := (.ok (), { w with responses := w.responses ++ data })
  close _ w := (.ok (), { w with closed := true })
  connect _ _ _ w := (.error Schedule.tryAgain, w)
  endpoint _ w := (.ok ⟨"127.0.0.1", 0⟩, w)
  note _ w := w

end Link

/-- What goes by while a client waits for octets: the ticks of the server, with the portion that it receives
in each, and then a fault or the arrival of octets, at most one more than a number. -/
structure Moment where
  portions : List Nat
  arrival : Except Fault Nat

/-- A server with the connection to it, and what will go by. -/
structure Remote (L : Language) where
  server : Server Unit
  context : Context L
  link : Link
  moments : List Moment

namespace Remote

variable {L : Language}

def tick (portion : Nat) (x : Remote L) : Remote L :=
  let out := x.server.tick x.context { x.link with portion := portion }
  { x with server := out.2.1, context := out.2.2.1, link := out.2.2.2 }

def ticks (portions : List Nat) (x : Remote L) : Remote L :=
  portions.foldl (fun x portion => x.tick portion) x

def late : Fault := ⟨.timeoutError, [.text "timed out"]⟩

/-- What a wait comes to. Where nothing is on its way it comes to the end of the stream, or to nothing. -/
def yield (size : Nat) (arrival : Except Fault Nat) (x : Remote L) :
    Except Fault (List UInt8) × Remote L :=
  match arrival, x.link.responses with
  | .error f, _ => (.error f, x)
  | .ok _, [] => (if x.link.closed then .ok [] else .error late, x)
  | .ok n, octets =>
    let n := min (n + 1) size
    (.ok (octets.take n), { x with link := { x.link with responses := octets.drop n } })

def receive (size : Nat) (x : Remote L) : Except Fault (List UInt8) × Remote L :=
  match x.moments with
  | [] => (.error late, x)
  | m :: later => yield size m.arrival ({ x with moments := later }.ticks m.portions)

def send (data : List UInt8) (x : Remote L) : Remote L :=
  { x with link := { x.link with requests := x.link.requests ++ data } }

instance : Sockets (Remote L) Unit where
  create x := (.ok (), x)
  reuseAddress _ x := (.ok (), x)
  bind _ _ _ x := (.ok (), x)
  listen _ _ x := (.ok (), x)
  setTimeout _ _ x := (.ok (), x)
  accept _ x := (.error Schedule.tryAgain, x)
  receive _ := receive
  sendAll _ data x := (.ok (), x.send data)
  close _ x := (.ok (), x)
  connect _ _ _ x := (.ok (), { x with link := .fresh })
  endpoint _ x := (.ok ⟨"127.0.0.1", 0⟩, x)
  note _ x := x

end Remote

structure Dialogue (L : Language) where
  client : Client Unit
  remote : Remote L

namespace Dialogue

variable {L : Language}

def connect (x : Dialogue L) : Dialogue L :=
  ⟨(x.client.connect x.remote).2.1, (x.client.connect x.remote).2.2⟩

inductive Step where
  | tick (portion : Nat)
  | evaluate (moments : List Moment) (expression : Text)

/-- The expressions of the calls, in their order. -/
def expressions (steps : List Step) : List Text :=
  steps.filterMap fun
    | .tick _ => none
    | .evaluate _ e => some e

def tick (portion : Nat) (x : Dialogue L) : Dialogue L := { x with remote := x.remote.tick portion }

def lasting (moments : List Moment) (x : Dialogue L) : Remote L := { x.remote with moments := moments }

/-- Waits for a message, for as long as there are moments; then nothing more comes in time. -/
def read (moments : List Moment) (x : Dialogue L) : Client.Ending Client.Failure × Dialogue L :=
  let out := x.client.readMessage (moments.length + 1) (x.lasting moments)
  (out.1, ⟨out.2.1, out.2.2⟩)

def evaluate (moments : List Moment) (e : Text) (x : Dialogue L) :
    Client.Ending Client.Failure × Dialogue L :=
  let out := x.client.evaluate (moments.length + 1) ⟨e⟩ (x.lasting moments)
  (out.1, ⟨out.2.1, out.2.2⟩)

/-- How the calls end, in their order. -/
def run : List Step → Dialogue L → List (Client.Ending Client.Failure)
  | [], _ => []
  | .tick portion :: later, x => run later (x.tick portion)
  | .evaluate moments e :: later, x => (x.evaluate moments e).1 :: run later (x.evaluate moments e).2

section Run

variable (later : List Step) (x : Dialogue L)

@[simp] theorem run_tick (portion : Nat) :
    run (.tick portion :: later) x = run later (x.tick portion) := rfl

@[simp] theorem run_evaluate (moments : List Moment) (e : Text) :
    run (.evaluate moments e :: later) x =
      (x.evaluate moments e).1 :: run later (x.evaluate moments e).2 := rfl

@[simp] theorem expressions_evaluate (moments : List Moment) (e : Text) :
    expressions (.evaluate moments e :: later) = e :: expressions later := rfl

end Run

end Dialogue

end LiveConsole.Net
