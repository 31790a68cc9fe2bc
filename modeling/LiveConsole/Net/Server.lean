import LiveConsole.Console.Evaluator
import LiveConsole.Net.Listener

/-!
# The server

A listener whose lines are evaluated. The host calls `tick`; each tick takes at most one client and
serves at most one line. The namespace in which lines are evaluated is handed in and given back,
for it may belong to the host.
-/

set_option autoImplicit false

namespace LiveConsole.Net

structure Server (H : Type) where
  listener : Listener H
  running : Bool

namespace Server

variable {W H : Type} [Sockets W H] {L : Language}

def new (s : Settings) : Server H := ⟨Listener.new s, false⟩

/-- An error that a tick passes on: one of the network, or one of the line that was served. -/
inductive Escape (L : Language) where
  | fault (f : Fault)
  | line (e : Evaluator.Escape L)

def noEndpoint : Fault := .said .typeError "cannot unpack non-iterable NoneType object"

/-- Reports where a listener is bound. -/
def announce (l : Listener H) (w : W) : Except Fault Bool × W :=
  match l.endpoint? w with
  | (.ok (some e), w) => (.ok true, Sockets.note (.serverStarted e) w)
  | (.ok none, w) => (.error noEndpoint, w)
  | (.error f, w) => (.error f, w)

/-- Starts to listen and tells whether that worked. A server whose address cannot be told runs all
the same. -/
def start (s : Server H) (w : W) : Except Fault Bool × Server H × W :=
  if s.running then (.ok true, s, w)
  else
    match s.listener.bind w with
    | (.ok (), l, w) =>
      let (a, w) := announce l w
      (a, ⟨l, true⟩, w)
    | (.error f, l, w) =>
      if f.isA .bindError then (.ok false, { s with listener := l }, Sockets.note (.notBound f) w)
      else (.error f, { s with listener := l }, w)

/-- Closes the client and the listener. If that fails, the server counts as running still. -/
def stop (s : Server H) (w : W) : Except Fault Unit × Server H × W :=
  match s.listener.close (if s.running then Sockets.note .serverStopping w else w) with
  | (.ok (), l, w) => (.ok (), ⟨l, false⟩, w)
  | (.error f, l, w) => (.error f, { s with listener := l }, w)

/-- Sends a response to the client and tells whether that worked. -/
def send (s : Server H) (r : Response) (w : W) : Except Fault Bool × W :=
  match r.encode with
  | .ok data => s.listener.send data w
  | .error reason => (.error (.unwritable reason), w)

/-- Takes a waiting client, if there is one, and greets it. -/
def welcome (s : Server H) (w : W) : Except Fault Unit × Server H × W :=
  match s.listener.acceptIfNone w with
  | (.error f, l, w) => (.error f, { s with listener := l }, w)
  | (.ok false, l, w) => (.ok (), { s with listener := l }, w)
  | (.ok true, l, w) =>
    let s := { s with listener := l }
    match s.send (.connected l.settings.banner) w with
    | (.ok _, w) => (.ok (), s, w)
    | (.error f, w) => (.error f, s, w)

/-- Evaluates a line and sends what comes of it. -/
def answer (s : Server H) (c : Context L) (line : Text) (w : W) :
    Except (Escape L) Unit × Context L × W :=
  match Evaluator.handleLine c line with
  | (.error e, c) => (.error (.line e), c, w)
  | (.ok none, c) => (.ok (), c, w)
  | (.ok (some r), c) =>
    match s.send r w with
    | (.ok _, w) => (.ok (), c, w)
    | (.error f, w) => (.error (.fault f), c, w)

/-- Serves the next line, if it is complete. -/
def serve (s : Server H) (c : Context L) (w : W) :
    Except (Escape L) Unit × Server H × Context L × W :=
  match s.listener.receiveLine w with
  | (.error f, l, w) => (.error (.fault f), { s with listener := l }, c, w)
  | (.ok none, l, w) => (.ok (), { s with listener := l }, c, w)
  | (.ok (some line), l, w) =>
    let s := { s with listener := l }
    let (r, c, w) := s.answer c line w
    (r, s, c, w)

/-- One step of a running server. -/
def tick (s : Server H) (c : Context L) (w : W) :
    Except (Escape L) Unit × Server H × Context L × W :=
  if s.running then
    match s.welcome w with
    | (.error f, s, w) => (.error (.fault f), s, c, w)
    | (.ok (), s, w) => s.serve c w
  else (.ok (), s, c, w)

/-- A server that does not run does nothing when it is ticked. -/
theorem tick_of_not_running {s : Server H} (h : s.running = false) (c : Context L) (w : W) :
    s.tick c w = (.ok (), s, c, w) := by
  simp [tick, h]

/-- Starting a running server changes nothing. -/
theorem start_of_running {s : Server H} (h : s.running = true) (w : W) :
    s.start w = (.ok true, s, w) := by
  simp [start, h]

/-- No line is evaluated while none is complete. -/
theorem serve_of_none {s : Server H} {l : Listener H} {c : Context L} {w w' : W}
    (h : s.listener.receiveLine w = (.ok none, l, w')) :
    s.serve c w = (.ok (), { s with listener := l }, c, w') := by
  simp [serve, h]

end Server

end LiveConsole.Net
