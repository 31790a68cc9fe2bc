import LiveConsole.Proofs.Net.Collecting

/-!
# Sessions of a client

A client connects, sends, reads and polls in any order, again and again, over any network. What arrives on
one connection, and which messages were returned meanwhile, is a session.
-/

namespace LiveConsole.Net
set_option autoImplicit false

variable {W H ε τ : Type}

namespace Client

open Datum (Quantity)

/-- What a client can be asked to do. -/
inductive Act (W ε : Type) where
  | connect
  | close
  | send (data : Except Failure (List UInt8))
  | read (rounds : Nat)
  | poll (rounds : Nat) (tick : W → Except ε Unit × W) (limit : Option Quantity) (interval : Quantity)

/-- What comes of it. A wait has a number of rounds that it may take. -/
inductive Report (ε : Type) where
  | connected (answer : Except Failure Unit)
  | done (answer : Except Failure Unit)
  | waited (rounds : Nat) (ending : Ending (Interruption ε))

def Act.onRecord : Act W ε → Act (Recorded W H) ε
  | .connect => .connect
  | .close => .close
  | .send data => .send data
  | .read rounds => .read rounds
  | .poll rounds tick limit interval => .poll rounds (Recorded.pass tick) limit interval

/-- A report with the socket that is held then and the calls that were made. -/
structure Episode (H ε : Type) where
  report : Report ε
  socket : Option H
  exchanges : List (Exchange H)

section Play

variable [Sockets W H] [Clock W τ] [LT τ] [DecidableLT τ] [Add τ]

def perform : Act W ε → Client H → W → Report ε × Client H × W
  | .connect, c, w => (.connected (c.connect w).1, (c.connect w).2)
  | .close, c, w => (.done (c.close w).1, (c.close w).2)
  | .send data, c, w => (.done (c.send data w).1, c, (c.send data w).2)
  | .read rounds, c, w =>
    (.waited rounds (readMessage rounds c w).1.own, (readMessage rounds c w).2)
  | .poll rounds tick limit interval, c, w =>
    (.waited rounds (poll rounds tick limit interval c w).1,
      (poll rounds tick limit interval c w).2)

/-- Performs acts in their order. -/
def performs : List (Act W ε) → Client H → W → List (Report ε) × Client H × W
  | [], c, w => ([], c, w)
  | a :: more, c, w =>
    match perform a c w with
    | (report, c, w) => (report :: (performs more c w).1, (performs more c w).2)

/-- Performs an act with a fresh record. -/
def episode (a : Act W ε) (c : Client H) (w : W) : Episode H ε × Client H × W :=
  match perform a.onRecord c (Recorded.mk w ([] : List (Exchange H))) with
  | (report, c, r) => (⟨report, c.socket, r.exchanges⟩, c, r.world)

/-- Performs acts in their order, each with a fresh record. -/
def play : List (Act W ε) → Client H → W → List (Episode H ε) × Client H × W
  | [], c, w => ([], c, w)
  | a :: more, c, w =>
    match episode a c w with
    | (e, c, w) => (e :: (play more c w).1, (play more c w).2)

open Recorded (plain)

omit [Clock W τ] [LT τ] [DecidableLT τ] [Add τ] in
theorem plain_connect (c : Client H) (r : Recorded W H) :
    plain (c.connect r) = c.connect r.world := by
  have hrec : Sockets.connect c.host c.port c.timeout r =
    Recorded.pass (Sockets.connect c.host c.port c.timeout) r := rfl
  rcases hcall : Sockets.connect c.host c.port c.timeout r.world with ⟨f | h, w⟩
  · simp only [connect, hrec, Recorded.pass, hcall, plain]
  · simp only [connect, hrec, Recorded.pass, hcall, plain]

omit [Clock W τ] [LT τ] [DecidableLT τ] [Add τ] in
theorem plain_close (c : Client H) (r : Recorded W H) : plain (c.close r) = c.close r.world := by
  cases hs : c.socket with
  | none => simp only [close, hs, plain]
  | some h =>
    rcases hcall : Sockets.close h r.world with ⟨f | u, w⟩
    · simp only [close, hs, Recorded.close_of_eq hcall, hcall, plain]
    · simp only [close, hs, Recorded.close_of_eq hcall, hcall, plain]

omit [Clock W τ] [LT τ] [DecidableLT τ] [Add τ] in
theorem plain_send (c : Client H) (data : Except Failure (List UInt8)) (r : Recorded W H) :
    ((c.send data r).1, (c.send data r).2.world) = c.send data r.world := by
  cases hs : c.socket with
  | none => simp only [send, hs]
  | some h =>
    cases data with
    | error e => simp only [send, hs]
    | ok octets =>
      rcases hcall : Sockets.sendAll h octets r.world with ⟨f | u, w⟩
      · simp only [send, hs, Recorded.sendAll_of_eq hcall, hcall]
      · simp only [send, hs, Recorded.sendAll_of_eq hcall, hcall]

omit [Clock W τ] [LT τ] [DecidableLT τ] [Add τ] in
theorem plain_readMessage (rounds : Nat) (c : Client H) (r : Recorded W H) :
    plain (readMessage rounds c r) = readMessage rounds c r.world := by
  induction rounds generalizing c r with
  | zero => rfl
  | succ more ih =>
    rcases hp : popped c.room c.buffer with ⟨e | _ | d, b⟩
    · simp only [readMessage, popMessage_eq, hp, plain]
    · cases hs : c.socket with
      | none => simp only [readMessage, popMessage_eq, hp, hs, plain]
      | some h =>
        rcases hr : Sockets.receive h chunkSize r.world with ⟨f | _ | ⟨first, rest⟩, w⟩
        · simp only [readMessage, popMessage_eq, hp, hs, Recorded.receive_of_eq hr, hr, plain]
        · simp only [readMessage, popMessage_eq, hp, hs, Recorded.receive_of_eq hr, hr, plain]
        · simp only [readMessage, popMessage_eq, hp, hs, Recorded.receive_of_eq hr, hr]
          exact ih _ _
    · simp only [readMessage, popMessage_eq, hp, plain]

omit [Add τ] in
theorem plain_await (limit : Quantity) (deadline : τ) (tick : W → Except ε Unit × W) (h : H)
    (rounds : Nat) (c : Client H) (r : Recorded W H) :
    plain (await ⟨limit, deadline, Recorded.pass tick⟩ h rounds c r) =
      await ⟨limit, deadline, tick⟩ h rounds c r.world := by
  have hnow : ∀ r : Recorded W H, Clock.now r = Clock.now r.world := fun _ => rfl
  induction rounds generalizing c r with
  | zero => rfl
  | succ more ih =>
    rcases hp : popped c.room c.buffer with ⟨e | _ | d, b⟩
    · simp only [await, popMessage_eq, hp, plain]
    · by_cases hlate : deadline < Clock.now r.world
      · simp only [await, popMessage_eq, hp, hnow, if_pos hlate, plain]
      · rcases ht : tick r.world with ⟨e | u, w⟩
        · simp only [await, popMessage_eq, hp, hnow, if_neg hlate, Recorded.pass, ht, plain]
        · rcases hr : Sockets.receive h chunkSize w with ⟨f | _ | ⟨first, rest⟩, w'⟩
          · have hrec := Recorded.receive_of_eq (r := ⟨w, r.exchanges⟩) hr
            cases hf : f.isA .timeoutError with
            | true =>
              simp only [await, popMessage_eq, hp, hnow, if_neg hlate, Recorded.pass, ht, hrec, hr,
                hf, if_pos]
              exact ih _ _
            | false =>
              simp only [await, popMessage_eq, hp, hnow, if_neg hlate, Recorded.pass, ht, hrec, hr,
                hf, Bool.false_eq_true, if_false, plain]
          · have hrec := Recorded.receive_of_eq (r := ⟨w, r.exchanges⟩) hr
            simp only [await, popMessage_eq, hp, hnow, if_neg hlate, Recorded.pass, ht, hrec, hr,
              plain]
          · have hrec := Recorded.receive_of_eq (r := ⟨w, r.exchanges⟩) hr
            simp only [await, popMessage_eq, hp, hnow, if_neg hlate, Recorded.pass, ht, hrec, hr]
            exact ih _ _
    · simp only [await, popMessage_eq, hp, plain]

omit [Clock W τ] [LT τ] [DecidableLT τ] [Add τ] in
theorem plain_restore (h : H) (c : Client H) (ending : Ending (Interruption ε))
    (r : Recorded W H) :
    ((restore h c ending r).1, (restore h c ending r).2.world) = restore h c ending r.world := by
  rcases ht : Sockets.setTimeout h c.timeout r.world with ⟨f | u, w⟩
  · simp only [restore, Recorded.setTimeout_of_eq ht, ht]
  · simp only [restore, Recorded.setTimeout_of_eq ht, ht]

theorem plain_poll (rounds : Nat) (tick : W → Except ε Unit × W) (limit : Option Quantity)
    (interval : Quantity) (c : Client H) (r : Recorded W H) :
    plain (poll rounds (Recorded.pass tick) limit interval c r) =
      poll rounds tick limit interval c r.world := by
  by_cases hlimit : isMeasurable (limit.getD c.timeout) = true
  case neg => simp only [poll, if_neg hlimit, plain]
  cases hs : c.socket with
  | none => simp only [poll, if_pos hlimit, hs, plain]
  | some h =>
    rcases ht : Sockets.setTimeout h interval r.world with ⟨f | u, w⟩
    · simp only [poll, if_pos hlimit, hs, Recorded.setTimeout_of_eq ht, ht, plain]
    · have hawait := plain_await (limit.getD c.timeout)
        (Clock.now r.world + Clock.span W (limit.getD c.timeout)) tick h rounds c
        ⟨w, r.exchanges ++ [.timed h (.ok u)]⟩
      simp only [poll, if_pos hlimit, hs, Recorded.setTimeout_of_eq ht, ht]
      rw [← hawait]
      have hnow : Clock.now r = Clock.now r.world := rfl
      have hspan : Clock.span (Recorded W H) = Clock.span W := rfl
      rw [hnow, hspan]
      generalize Patience.mk (limit.getD c.timeout) _ (Recorded.pass tick) = p
      generalize await p h rounds c _ = outcome
      obtain ⟨d | e | _, c', r'⟩ := outcome
      · simp only [plain, ← plain_restore]
      · simp only [plain, ← plain_restore]
      · rfl

theorem plain_perform (a : Act W ε) (c : Client H) (r : Recorded W H) :
    plain (perform a.onRecord c r) = perform a c r.world := by
  cases a with
  | connect =>
    rw [perform, ← plain_connect]
    rfl
  | close =>
    rw [perform, ← plain_close]
    rfl
  | send data =>
    rw [perform, ← plain_send]
    rfl
  | read rounds =>
    rw [perform, ← plain_readMessage]
    rfl
  | poll rounds tick limit interval =>
    rw [perform, ← plain_poll]
    rfl

/-- Episodes are the acts in the network itself. -/
theorem map_report_play (acts : List (Act W ε)) (c : Client H) (w : W) :
    ((play acts c w).1.map Episode.report, (play acts c w).2) = performs acts c w := by
  induction acts generalizing c w with
  | nil => rfl
  | cons a more ih =>
    have hact := plain_perform a c (Recorded.mk w [])
    rw [performs, ← hact]
    exact congrArg (fun x => ((episode a c w).1.report :: x.1, x.2)) (ih _ _)

end Play

/-- What one connection brought, and which messages were returned while it was the latest. -/
structure Session (H : Type) where
  socket : Option H
  received : List UInt8
  returned : List Datum

def Report.message? : Report ε → Option Datum
  | .waited _ (.message d) => some d
  | _ => none

def Session.after (s : Session H) (e : Episode H ε) : Session H :=
  { s with
    received := s.received ++ arrived e.exchanges
    returned := s.returned ++ e.report.message?.toList }

/-- The sessions after an episode, the latest of them first. -/
def Episode.enter (past : List (Session H)) (e : Episode H ε) : List (Session H) :=
  match e.report, past with
  | .connected (.ok ()), past => ⟨e.socket, [], []⟩ :: past
  | _, [] => []
  | _, s :: past => s.after e :: past

def sessions (es : List (Episode H ε)) : List (Session H) := es.foldl Episode.enter []

/-- The messages are the first complete lines, read, in their order. -/
def Session.Faithful (s : Session H) (room : Nat) : Prop :=
  s.returned.map (fun d => .ok (some d)) <+: (frames s.received).map (Client.message? room)

/-- The poll could not be begun, because there is no connection or because it takes no timeout, or because
its limit is too large. -/
def Episode.Unbegun (e : Episode H ε) (f : Interruption ε) : Prop :=
  f = .own (.notConnected .setTimeout) ∨ (f = .own (.fault immeasurable) ∧ e.exchanges = []) ∨
    ∃ h g, f = .own (.fault g) ∧ e.exchanges = [.timed h (.error g)]

/-- The socket got its own timeout back, if it had been given another. -/
def Episode.Restored (e : Episode H ε) : Prop := ∀ x ∈ e.exchanges.tail, x.refuses = false

instance (e : Episode H ε) : Decidable e.Restored :=
  inferInstanceAs (Decidable (∀ x ∈ e.exchanges.tail, x.refuses = false))

/-- The first complete line that was not returned yet. -/
def Session.due (s : Session H) (received : List UInt8) : Option (List UInt8) :=
  (frames received)[s.returned.length]?

/-- What a wait has to be in a session. -/
structure Episode.Exact (room : Nat) (s : Session H) (e : Episode H ε) (rounds : Nat)
    (ending : Ending (Interruption ε)) : Prop where
  /-- Octets are asked of the connection of this session only. -/
  asked : ∀ x ∈ e.exchanges, x.asks = true → ∃ h a, s.socket = some h ∧ x = .received h chunkSize a
  message : ∀ d, ending = .message d →
    ∃ p, s.due (s.after e).received = some p ∧ Client.message? room p = .ok (some d)
  /-- Whatever a wait fails with, there is no complete line left. -/
  failed : ∀ f, ending = .failed f → s.due (s.after e).received = none ∨ e.Unbegun f
  unfinished : ending = .unfinished → e.exchanges.countP Exchange.asks = rounds
  /-- A line that is there is returned without a look at the socket. -/
  prompt : s.due s.received ≠ none → rounds ≠ 0 → e.exchanges.countP Exchange.asks = 0 ∧
    ((∃ d, ending = .message d) ∨ ∃ f, ending = .failed f ∧ e.Unbegun f)

def Episode.Fits (room : Nat) (past : List (Session H)) (e : Episode H ε) : Prop :=
  match e.report, past with
  | .waited rounds ending, s :: _ => e.Exact room s rounds ending
  | .waited _ ending, [] => arrived e.exchanges = [] ∧ ∀ d, ending ≠ .message d
  | _, _ => arrived e.exchanges = []

end Client
end LiveConsole.Net
