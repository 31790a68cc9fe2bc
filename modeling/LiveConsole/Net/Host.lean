import LiveConsole.Cadence
import LiveConsole.Net.Clock
import LiveConsole.Net.Server

/-!
# The host

A host program keeps namespaces, one of them its own, and servers that evaluate in them. At most
one server is the current one; it is started, ticked and stopped for the host as a whole. A
server that was current once can still be used by its number.
-/

set_option autoImplicit false

namespace LiveConsole.Net

/-- A server of a host with the namespace that it evaluates in. -/
structure Hosted (H : Type) where
  server : Server H
  file : Text
  space : Nat

structure Host (L : Language) (H : Type) where
  spaces : Array L.State
  /-- Whether servers get the host's own namespace if no other is given. -/
  shared : Bool
  servers : Array (Hosted H)
  current : Option Nat

namespace Host

variable {W H τ : Type} [Sockets W H] {L : Language}

/-- The number of the host's own namespace. -/
def ownSpace : Nat := 0

/-- The file that texts count as unless another is given. -/
def defaultFile : Text := "<repl>"

/-- The names that the host's own namespace has from the beginning. -/
def ownNames : List (Text × Datum) :=
  [("__name__", .text "__main__"), ("__doc__", .null), ("__package__", .null),
    ("__loader__", .null), ("__spec__", .null)]

def initial : Host L H :=
  ⟨#[((Context.new defaultFile).defineAll ownNames : Context L).state], true, #[], none⟩

def space (p : Host L H) (n : Nat) : L.State :=
  p.spaces[n]?.getD L.initial

def putSpace (p : Host L H) (n : Nat) (s : L.State) : Host L H :=
  { p with spaces := p.spaces.setIfInBounds n s }

/-- Adds the namespace of a context and gives its number. -/
def addSpace (p : Host L H) (c : Context L) : Nat × Host L H :=
  (p.spaces.size, { p with spaces := p.spaces.push c.state })

/-- The host's own namespace as a context. -/
def own (p : Host L H) : Context L :=
  ⟨defaultFile, p.space ownSpace⟩

def putOwn (p : Host L H) (c : Context L) : Host L H :=
  p.putSpace ownSpace c.state

def context (p : Host L H) (s : Hosted H) : Context L :=
  ⟨s.file, p.space s.space⟩

/-- Where a server is to evaluate: in a context of its own, or else in the host's namespace. -/
def place (p : Host L H) (c : Option (Context L)) : (Text × Nat) × Host L H :=
  match c with
  | some c =>
    let (n, p) := p.addSpace c
    ((c.file, n), p)
  | none =>
    if p.shared then ((defaultFile, ownSpace), p)
    else
      let (n, p) := p.addSpace (Context.new defaultFile)
      ((defaultFile, n), p)

/-- Adds a server and gives its number. -/
def addServer (p : Host L H) (s : Server H) (c : Option (Context L)) : Nat × Host L H :=
  let ((file, space), p) := p.place c
  (p.servers.size, { p with servers := p.servers.push ⟨s, file, space⟩ })

/-- Puts a server and its context back. -/
def put (p : Host L H) (n : Nat) (old : Hosted H) (s : Server H) (c : Context L) :
    Host L H :=
  { p.putSpace old.space c.state with
    servers := p.servers.setIfInBounds n { old with server := s, file := c.file } }

/-- Lets a server act in its context; `absent` is the answer if there is no such server. -/
def act {α : Type} (absent : α)
    (action : Server H → Context L → W → α × Server H × Context L × W)
    (n : Nat) (p : Host L H) (w : W) : α × Host L H × W :=
  match p.servers[n]? with
  | none => (absent, p, w)
  | some h =>
    let (a, s, c, w) := action h.server (p.context h) w
    (a, p.put n h s c, w)

def startServer : Nat → Host L H → W → Except Fault Bool × Host L H × W :=
  act (.ok false) fun s c w =>
    let (r, s, w) := s.start w
    (r, s, c, w)

def stopServer : Nat → Host L H → W → Except Fault Unit × Host L H × W :=
  act (.ok ()) fun s c w =>
    let (r, s, w) := s.stop w
    (r, s, c, w)

def tickServer : Nat → Host L H → W → Except (Server.Escape L) Unit × Host L H × W :=
  act (.ok ()) Server.tick

def currentServer? (p : Host L H) : Option (Hosted H) :=
  p.current.bind fun n => p.servers[n]?

def isRunning (p : Host L H) : Bool :=
  p.currentServer?.any fun h => h.server.running

/-- Why a start fails with an error. -/
inductive StartFailure where
  | refused (r : Settings.Refusal)
  | fault (f : Fault)

/-- Makes a new server and starts it. Only a server that listens becomes the current one. -/
def launch (s : Settings) (c : Option (Context L)) (p : Host L H) (w : W) :
    Except StartFailure Bool × Host L H × W :=
  match (Server.new s).start w with
  | (.error f, _, w) => (.error (.fault f), p, w)
  | (.ok false, _, w) => (.ok false, p, w)
  | (.ok true, s, w) =>
    let (n, p) := p.addServer s c
    (.ok true, { p with current := some n }, w)

/-- Starts the current server. While one is running, this does nothing, whatever the options. -/
def start (base : Settings.Base) (overrides : Datum) (c : Option (Context L)) (p : Host L H)
    (w : W) : Except StartFailure Bool × Host L H × W :=
  if p.isRunning then (.ok true, p, w)
  else
    match Settings.make base overrides with
    | .error r => (.error (.refused r), p, w)
    | .ok s => p.launch s c w

/-- Stops the current server. If that fails, it stays the current one. -/
def stop (p : Host L H) (w : W) : Except Fault Unit × Host L H × W :=
  match p.current with
  | none => (.ok (), p, w)
  | some n =>
    match stopServer n p w with
    | (.ok (), p, w) => (.ok (), { p with current := none }, w)
    | (.error f, p, w) => (.error f, p, w)

def tick (p : Host L H) (w : W) : Except (Server.Escape L) Unit × Host L H × W :=
  match p.current with
  | none => (.ok (), p, w)
  | some n => tickServer n p w

/-- The host as the surroundings of a pacer. -/
def pacing [Clock W τ] : Cadence.Host (Host L H × W) τ (Server.Escape L) where
  clock x := Clock.now x.2
  tick x :=
    match x.1.tick x.2 with
    | (.ok (), x) => (⟨false, none⟩, x)
    | (.error e, x) => (⟨false, some e⟩, x)
  sleep t x := (⟨false, none⟩, x.1, Clock.sleep t x.2)

/-- Ticks the current server at a steady pace. -/
def drive [Clock W τ] [Sub τ] [LT τ] [DecidableLT τ] [OfNat τ 0] (pacer : Cadence.Pacer τ)
    (limit : Option Int) (bound : Nat) (p : Host L H) (w : W) :
    Cadence.Pacer.Ending (Server.Escape L) × Host L H × W :=
  let (ending, _, p, w) := pacer.run pacing limit bound (p, w)
  (ending, p, w)

/-- Without a current server a tick does nothing. -/
theorem tick_of_none {p : Host L H} (h : p.current = none) (w : W) :
    p.tick w = (.ok (), p, w) := by
  simp [tick, h]

/-- While a server is running, starting changes nothing. -/
theorem start_of_isRunning {p : Host L H} (h : p.isRunning = true) (base : Settings.Base)
    (overrides : Datum) (c : Option (Context L)) (w : W) :
    p.start base overrides c w = (.ok true, p, w) := by
  simp [start, h]

theorem isRunning_of_none {p : Host L H} (h : p.current = none) : p.isRunning = false := by
  simp [isRunning, currentServer?, h]

end Host

end LiveConsole.Net
