import LiveConsole.Console.Scripts
import LiveConsole.Net.Loopback
import LiveConsole.Proofs.Net.Hosting
import LiveConsole.Proofs.Net.Recording
import LiveConsole.Proofs.Net.Sheltered

/-!
# Sockets that cannot be closed

Sockets are closed when a server is stopped, when a connection cannot be used, and when a socket cannot be
made to listen. Only for the connection of the client it makes no difference whether that works. A server
whose listening socket cannot be closed goes on without its client, and the failure is passed on.
-/

namespace LiveConsole.Net
set_option autoImplicit false

/-- Closing a socket fails with faults of the socket system only. -/
def ClosesSystemically (W : Type) {H : Type} [Sockets W H] : Prop :=
  ∀ (h : H) (w : W), Systemic (Sockets.close h w).1

variable {W H : Type} [Sockets W H] {L : Language}

theorem exists_close_eq (hW : ClosesSystemically W) (h : H) (r : Recorded W H) :
    ∃ a w', Sockets.close h r = (a, ⟨w', r.exchanges ++ [.closed h a]⟩) ∧ Systemic a := by
  have hsystemic := hW h r.world
  rcases hclose : Sockets.close h r.world with ⟨a, w'⟩
  rw [hclose] at hsystemic
  exact ⟨a, w', Recorded.close_of_eq hclose, hsystemic⟩

namespace Listener

/-- The client is forgotten whatever the attempt to close its connection comes to. -/
theorem dropClient_recorded (hW : ClosesSystemically W) (l : Listener H) (r : Recorded W H) :
    ∃ a w', dropClient l r =
      (.ok (), l.alone, ⟨w', r.exchanges ++ l.client.toList.map (.closed · a)⟩) := by
  cases hc : l.client with
  | none =>
    refine ⟨.ok (), r.world, ?_⟩
    rw [dropClient_of_no_client hc, Option.toList_none, List.map_nil, List.append_nil]
  | some h =>
    obtain ⟨a, w', hclose, ha⟩ := exists_close_eq hW h r
    exact ⟨a, w', dropClient_of_client hc hclose ha⟩

/-- The ways to close a listener: first its client, then its own socket. -/
inductive Shuts (l : Listener H) (r : Recorded W H) :
    Except Fault Unit × Listener H × Recorded W H → Prop where
  | shut (a : Except Fault Unit) (w' : W) :
      Shuts l r (.ok (), { l.alone with server := none },
        ⟨w', r.exchanges ++ l.client.toList.map (.closed · a) ++
          l.server.toList.map (.closed · (.ok ()))⟩)
  | stuck (a : Except Fault Unit) (w' : W) {server : H} {f : Fault}
      (hs : l.server = some server) (hf : f.isA .systemError = true) :
      Shuts l r (.error f, l.alone,
        ⟨w', r.exchanges ++ l.client.toList.map (.closed · a) ++ [.closed server (.error f)]⟩)

theorem shuts (hW : ClosesSystemically W) (l : Listener H) (r : Recorded W H) :
    Shuts l r (close l r) := by
  obtain ⟨a, w₁, hdrop⟩ := dropClient_recorded hW l r
  cases hs : l.server with
  | none =>
    have hshut := Shuts.shut (l := l) (r := r) a w₁
    rw [hs, Option.toList_none, List.map_nil, List.append_nil] at hshut
    rw [close_of_no_server hdrop hs]
    exact hshut
  | some server =>
    obtain ⟨b, w', hclose, hb⟩ := exists_close_eq hW server
      ⟨w₁, r.exchanges ++ l.client.toList.map (.closed · a)⟩
    cases b with
    | ok u =>
      have hshut := Shuts.shut (l := l) (r := r) a w'
      rw [hs] at hshut
      rw [close_of_server hdrop hs hclose]
      exact hshut
    | error f =>
      have hstuck : close l r = (.error f, l.alone,
          ⟨w', r.exchanges ++ l.client.toList.map (.closed · a) ++
            [.closed server (.error f)]⟩) := by
        simp [close, hdrop, alone, hs, hclose]
      rw [hstuck]
      exact .stuck a w' hs (hb f rfl)

/-- A connection that cannot be given its timeout is closed, and no client is held. -/
theorem acceptIfNone_recorded (hW : ClosesSystemically W) {l : Listener H} {server h : H}
    {e : Endpoint} {f : Fault} {r : Recorded W H} {w₁ w₂ : W} (hs : l.server = some server)
    (hc : l.client = none) (haccept : Sockets.accept server r.world = (.ok (h, e), w₁))
    (htime : Sockets.setTimeout h (timeout l.settings) w₁ = (.error f, w₂))
    (hf : f.isA .systemError = true) :
    ∃ a w', acceptIfNone l r = (a.map fun _ => false, l,
        ⟨w', r.exchanges ++ [.accepted server (.ok (h, e)), .timed h (.error f), .closed h a]⟩) ∧
      Systemic a := by
  have haccepted := Recorded.accept_of_eq haccept
  have htimed := Recorded.setTimeout_of_eq
    (r := ⟨w₁, r.exchanges ++ [.accepted server (.ok (h, e))]⟩) htime
  obtain ⟨a, w', hclose, ha⟩ := exists_close_eq hW h (Sockets.note (.clientUnusable e f)
    ⟨w₂, r.exchanges ++ [.accepted server (.ok (h, e))] ++ [.timed h (.error f)]⟩)
  refine ⟨a, w', ?_, ha⟩
  rw [acceptIfNone_of_unusable hs hc haccepted htimed hf hclose]
  simp

/-- A socket that cannot be made to listen is closed, and the listener stays unbound. -/
theorem bind_recorded (hW : ClosesSystemically W) {l : Listener H} {h : H} {f : Fault}
    {r r₁ r₂ : Recorded W H} (hs : l.server = none) (hcreate : Sockets.create r = (.ok h, r₁))
    (hprepare : prepare l.settings h r₁ = (.error f, r₂)) (hf : f.isA .systemError = true) :
    ∃ a w', bind l r = (a.bind fun _ => .error (failedToBind l.settings f), l,
        ⟨w', r₂.exchanges ++ [.closed h a]⟩) ∧ Systemic a := by
  obtain ⟨a, w', hclose, ha⟩ := exists_close_eq hW h r₂
  refine ⟨a, w', ?_, ha⟩
  rw [bind, if_neg (by simp [isBound, hs]), hcreate]
  simp only [hprepare, if_pos hf, hclose]
  cases a with
  | ok u => rfl
  | error e => rfl

end Listener

namespace Server

/-- A server is stopped, or it goes on without its client. -/
theorem stop_recorded (hW : ClosesSystemically W) (s : Server H) (r : Recorded W H) :
    ∃ (a b : Except Fault Unit) (s' : Server H) (w' : W),
      s.stop r = (b, s', ⟨w', r.exchanges ++ s.listener.client.toList.map (.closed · a) ++
        s.listener.server.toList.map (.closed · b)⟩) ∧
      s'.listener.client = none ∧ s'.listener.buffer = [] ∧
      (b = .ok () → s'.listener.server = none ∧ s'.running = false) ∧
      ∀ f, b = .error f → f.isA .systemError = true ∧ s.listener.isBound = true ∧
        s'.listener.server = s.listener.server ∧ s'.running = s.running := by
  have hshuts := Listener.shuts hW s.listener
    (if s.running then Sockets.note .serverStopping r else r)
  have hrecord : (if s.running then Sockets.note .serverStopping r else r).exchanges =
      r.exchanges := by
    cases s.running <;> rfl
  rw [stop]
  generalize Listener.close s.listener (if s.running then Sockets.note .serverStopping r else r) = out
    at hshuts
  cases hshuts with
  | shut a w' =>
    refine ⟨a, .ok (), _, w', by rw [hrecord], rfl, rfl, fun _ => ⟨rfl, rfl⟩, ?_⟩
    intro f hf
    contradiction
  | @stuck a w' server f hs hf =>
    refine ⟨a, .error f, _, w', by rw [hrecord, hs]; rfl, rfl, rfl, ?_, ?_⟩
    · intro hok
      contradiction
    · intro e he
      obtain rfl := Except.error.inj he
      have hbound : s.listener.isBound = true := by rw [Listener.isBound, hs]; rfl
      exact ⟨hf, hbound, rfl, rfl⟩

end Server

namespace Host

/-- The current server is let go just when it is stopped. -/
theorem stop_of_current {p : Host L H} {n : Nat} {x : Hosted H} (hn : p.current = some n)
    (hx : p.servers[n]? = some x) (w : W) :
    (p.stop w).1 = (x.server.stop w).1 ∧
      ((p.stop w).1 = .ok () → (p.stop w).2.1.current = none) ∧
      ∀ f, (p.stop w).1 = .error f → (p.stop w).2.1.current = some n ∧
        (p.stop w).2.1.currentServer?.map Hosted.server = some (x.server.stop w).2.1 := by
  rcases hstop : x.server.stop w with ⟨f | u, s, w'⟩
  · rw [stop_of_stuck hn hx hstop]
    refine ⟨rfl, ?_, ?_⟩
    · intro hok
      contradiction
    · intro e he
      rw [currentServer?_put hn hx]
      exact ⟨hn, rfl⟩
  · rw [stop_of_stopped hn hx hstop]
    refine ⟨rfl, fun _ => rfl, ?_⟩
    intro e he
    contradiction

/-- A stop closes the connection of the client and then the listening socket, each once. The client is gone
whatever comes of it, and the server is stopped just if the listening socket could be closed; otherwise it
runs on and the failure is passed on. So it is with a connection that cannot be used and with a socket that
cannot listen: a failure to close them is passed on, and no client is held, and the listener is unbound. -/
theorem teardown_outcomes (hW : ClosesSystemically W) (r : Recorded W H) :
    (∀ s : Server H, s.Arises → ∃ (a b : Except Fault Unit) (s' : Server H) (w' : W),
      s.stop r = (b, s', ⟨w', r.exchanges ++ s.listener.client.toList.map (.closed · a) ++
        s.listener.server.toList.map (.closed · b)⟩) ∧
      s'.listener.client = none ∧ s'.listener.buffer = [] ∧
      (b = .ok () → s'.listener.server = none ∧ s'.running = false) ∧
      ∀ f, b = .error f → f.isA .systemError = true ∧ s.running = true ∧
        s'.listener.server = s.listener.server ∧ s'.running = true) ∧
    (∀ (p : Host L H) (n : Nat) (x : Hosted H), p.current = some n → p.servers[n]? = some x →
      (p.stop r).1 = (x.server.stop r).1 ∧
      ((p.stop r).1 = .ok () → (p.stop r).2.1.current = none) ∧
      ∀ f, (p.stop r).1 = .error f → (p.stop r).2.1.current = some n ∧
        (p.stop r).2.1.currentServer?.map Hosted.server = some (x.server.stop r).2.1) ∧
    (∀ (l : Listener H) (server h : H) (e : Endpoint) (f : Fault) (w₁ w₂ : W),
      l.server = some server → l.client = none →
      Sockets.accept server r.world = (.ok (h, e), w₁) →
      Sockets.setTimeout h (Listener.timeout l.settings) w₁ = (.error f, w₂) →
      f.isA .systemError = true →
      ∃ a w', l.acceptIfNone r = (a.map fun _ => false, l,
          ⟨w', r.exchanges ++ [.accepted server (.ok (h, e)), .timed h (.error f), .closed h a]⟩) ∧
        Systemic a) ∧
    ∀ (l : Listener H) (h : H) (f : Fault) (r₁ r₂ : Recorded W H), l.server = none →
      Sockets.create r = (.ok h, r₁) → Listener.prepare l.settings h r₁ = (.error f, r₂) →
      f.isA .systemError = true →
      (∃ a w', l.bind r = (a.bind fun _ => .error (Listener.failedToBind l.settings f), l,
          ⟨w', r₂.exchanges ++ [.closed h a]⟩) ∧ Systemic a) ∧
        ((Listener.failedToBind l.settings f).isA .bindError = true ∨
          ∃ reason, (l.settings.host.plain = .error reason ∨ f.message = .error reason) ∧
            Listener.failedToBind l.settings f = .unwritable reason) := by
  refine ⟨?_, fun p n x hn hx => stop_of_current hn hx r, ?_, ?_⟩
  · intro s hs
    obtain ⟨a, b, s', w', hstop, hclient, hbuffer, hstopped, hstuck⟩ :=
      Server.stop_recorded hW s r
    refine ⟨a, b, s', w', hstop, hclient, hbuffer, hstopped, ?_⟩
    intro f hf
    obtain ⟨hsystemic, hbound, hserver, hrunning⟩ := hstuck f hf
    have hrun : s.running = true := hs.coherent.running_eq.trans hbound
    exact ⟨hsystemic, hrun, hserver, hrunning.trans hrun⟩
  · intro l server h e f w₁ w₂ hs hc haccept htime hf
    exact Listener.acceptIfNone_recorded hW hs hc haccept htime hf
  · intro l h f r₁ r₂ hs hcreate hprepare hf
    exact ⟨Listener.bind_recorded hW hs hcreate hprepare hf,
      Listener.failedToBind_cases l.settings f⟩

end Host

/-- A sheltered network in which it is laid down how the next sockets are closed. -/
structure Rusty where
  sheltered : Sheltered
  closings : List Reply

namespace Rusty

variable {α : Type}

def inside (call : Sheltered → α × Sheltered) (w : Rusty) : α × Rusty :=
  ((call w.sheltered).1, { w with sheltered := (call w.sheltered).2 })

def close (h : Nat) (w : Rusty) : Except Fault Unit × Rusty :=
  match w.closings with
  | [] => inside (Sockets.close h) w
  | a :: later => (a.val, { w with closings := later })

instance : Sockets Rusty Nat where
  create := inside Sockets.create
  reuseAddress h := inside (Sockets.reuseAddress h)
  bind h host port := inside (Sockets.bind h host port)
  listen h backlog := inside (Sockets.listen h backlog)
  setTimeout h t := inside (Sockets.setTimeout h t)
  accept h := inside (Sockets.accept h)
  receive h size := inside (Sockets.receive h size)
  sendAll h data := inside (Sockets.sendAll h data)
  close := close
  connect host port t := inside (Sockets.connect host port t)
  endpoint h := inside (Sockets.endpoint h)
  note n w := { w with sheltered := Sockets.note n w.sheltered }

theorem closesSystemically : ClosesSystemically Rusty := by
  intro h w
  change Systemic (close h w).1
  unfold close
  cases w.closings with
  | nil => exact Systemic.ok ()
  | cons a later => exact a.property

/-- A visitor comes, who says nothing. -/
def visited : Rusty :=
  ⟨⟨⟨[.caller (.visitor ⟨[Schedule.pause], ⟨.ok [], ends_nil⟩, [], .done⟩)], []⟩, [], []⟩, []⟩

/-- The next caller cannot be used, the address is in use, and two sockets cannot be closed. -/
def worn : Rusty :=
  ⟨⟨⟨[.caller (.unusable ⟨Schedule.badDescriptor, rfl⟩ .done)], []⟩, [Sheltered.inUse], []⟩,
    [.refused, .refused]⟩

def attending : Server Nat :=
  (((Server.new Settings.initial).start visited).2.1.tick
    (Context.new "<repl>" : Context scripts) visited).2.1

theorem arises_attending : attending.Arises := .tick _ _ (.start _ (.new _))

def idle : Listener Nat := Listener.new Settings.initial

def listening : Listener Nat := { idle with server := some 0 }

def record : Recorded Rusty Nat := ⟨worn, []⟩

theorem worn_outcomes :
    ClosesSystemically Rusty ∧ attending.Arises ∧ attending.listener.client = some 0 ∧
    (∃ f s' r', attending.stop record = (.error f, s', r') ∧ s'.listener.client = none ∧
      s'.running = true) ∧
    (∃ f r', listening.acceptIfNone record = (.error f, listening, r')) ∧
    ∃ f r', idle.bind record = (.error f, idle, r') ∧ f.isA .bindError = false := by
  obtain ⟨hstop, -, haccept, hbind⟩ :=
    Host.teardown_outcomes (L := scripts) closesSystemically record
  refine ⟨closesSystemically, arises_attending, rfl, ?_, ?_, ?_⟩
  · obtain ⟨a, b, s', w', hstopped, hclient, _, _, hstuck⟩ := hstop attending arises_attending
    have hfails : (attending.stop record).1.isOk = false := by decide +kernel
    rw [hstopped] at hfails ⊢
    cases b with
    | ok u => contradiction
    | error f => exact ⟨f, s', _, rfl, hclient, (hstuck f rfl).2.2.2⟩
  · obtain ⟨a, w', haccepted, _⟩ := haccept listening 0 0 _ _ _ _ rfl rfl rfl rfl rfl
    have hfails : (listening.acceptIfNone record).1.isOk = false := by decide +kernel
    rw [haccepted] at hfails ⊢
    cases a with
    | ok u => contradiction
    | error f => exact ⟨f, _, rfl⟩
  · obtain ⟨⟨a, w', hbound, _⟩, _⟩ := hbind idle 0 _ _ _ rfl rfl rfl rfl
    have hfails : (idle.bind record).1 = .error ⟨.brokenPipeError, []⟩ := rfl
    rw [hbound] at hfails
    dsimp only at hfails
    rw [hbound, hfails]
    exact ⟨_, _, rfl, by decide⟩

end Rusty

namespace Host

/-- The listening socket cannot be closed: the stop fails, and the server is still there and runs. -/
theorem unclosed_runs_on :
    (match (initial : Host scripts Nat).start .initial (.dict []) none Loopback.initial with
    | (.ok true, p, w) =>
      match p.stop (w.plan ⟨.close, ⟨.systemError, [.int 5, .text "Input/output error"]⟩, 0, 1⟩) with
      | (.error f, p, _) => f.isA .systemError && p.current.isSome && p.isRunning
      | _ => false
    | _ => false) = true := by
  decide +kernel

end Host
end LiveConsole.Net
