import LiveConsole.Net.Server
import LiveConsole.Proofs.Net.Binding
import LiveConsole.Proofs.Net.Reception

/-!
# The lifetime of a server

A server is made, and then started, ticked and stopped in any order, whatever its network answers. As
long as it runs, its listener is bound.
-/

namespace LiveConsole.Net
set_option autoImplicit false

variable {W H : Type} [Sockets W H]

namespace Listener

/-- A look for a client leaves the listener as it is or gives it a client. -/
theorem acceptIfNone_kept (l : Listener H) (w : W) :
    (acceptIfNone l w).2.1 = l ∨
      l.isBound = true ∧
        ∃ h, (acceptIfNone l w).2.1 = { l with client := some h, buffer := [] } := by
  cases hc : l.client with
  | some h => exact .inl (by rw [acceptIfNone_of_client hc])
  | none =>
    cases hs : l.server with
    | none => exact .inl (by simp [acceptIfNone, hs])
    | some server =>
      have hbound : l.isBound = true := by rw [isBound, hs]; rfl
      have hlooking := looking hs hc w
      generalize acceptIfNone l w = out at hlooking
      cases hlooking with
      | nobody => exact .inl rfl
      | caller => exact .inr ⟨hbound, _, by rw [hs]⟩
      | untimed => exact .inl rfl
      | unusable => exact .inl rfl

theorem server_acceptIfNone (l : Listener H) (w : W) :
    (acceptIfNone l w).2.1.server = l.server := by
  rcases acceptIfNone_kept l w with hsame | ⟨_, h, hheld⟩
  · rw [hsame]
  · rw [hheld]

/-- The client is forgotten, or kept if its connection could not be closed. -/
theorem dropClient_cases (l : Listener H) (w : W) :
    (∃ f, (dropClient l w).1 = .error f) ∧ (dropClient l w).2.1 = l ∨
      (dropClient l w).1 = .ok () ∧ (dropClient l w).2.1 = l.alone := by
  cases hc : l.client with
  | none => simp [dropClient, hc, alone]
  | some h =>
    rcases hclose : Sockets.close h w with ⟨f | u, w'⟩
    · cases hf : f.isA .systemError <;> simp [dropClient, hc, hclose, hf, alone]
    · simp [dropClient, hc, hclose, alone]

/-- Asking for a line keeps the listening socket, and loses at most the client. -/
theorem receiveLine_kept (l : Listener H) (w : W) :
    (receiveLine l w).2.1.server = l.server ∧
      ((receiveLine l w).2.1.client = l.client ∨ (receiveLine l w).2.1.client = none) := by
  have hdrop (l : Listener H) (w : W) :
      (dropping (dropClient l w)).2.1.server = l.server ∧
        ((dropping (dropClient l w)).2.1.client = l.client ∨
          (dropping (dropClient l w)).2.1.client = none) := by
    rw [dropping]
    rcases dropClient_cases l w with ⟨_, hsame⟩ | ⟨_, halone⟩
    · rw [hsame]
      exact ⟨rfl, .inl rfl⟩
    · rw [halone]
      exact ⟨rfl, .inr rfl⟩
  cases hc : l.client with
  | none =>
    rw [receiveLine_of_no_client hc]
    exact ⟨rfl, .inl hc⟩
  | some h =>
    have hasking := asking hc w
    generalize receiveLine l w = out at hasking
    cases hasking with
    | line hread =>
      rw [hread.eq_with_buffer.2]
      exact ⟨rfl, .inl hc⟩
    | kept => exact ⟨rfl, .inl hc⟩
    | quiet => exact ⟨rfl, .inl hc⟩
    | overlong =>
      rw [← hc]
      exact hdrop { l with buffer := _ } _
    | ended =>
      rw [← hc]
      exact hdrop l _

/-- A listener that could not be closed keeps its socket. -/
theorem close_cases (l : Listener H) (w : W) :
    (∃ f, (close l w).1 = .error f) ∧ ((close l w).2.1 = l ∨ (close l w).2.1 = l.alone) ∨
      (close l w).1 = .ok () ∧ (close l w).2.1 = { l.alone with server := none } := by
  have hdrop := dropClient_cases l w
  rcases hd : dropClient l w with ⟨f | u, l', w'⟩
  · rw [hd] at hdrop
    rcases hdrop with ⟨_, rfl⟩ | ⟨hok, _⟩
    · left
      simp [close, hd]
    · contradiction
  · rw [hd] at hdrop
    rcases hdrop with ⟨⟨f, hf⟩, _⟩ | ⟨_, rfl⟩
    · contradiction
    · cases hs : l.server with
      | none =>
        right
        simp [close, hd, alone, hs]
      | some server =>
        rcases hclose : Sockets.close server w' with ⟨f | u, w''⟩
        · left
          simp [close, hd, alone, hs, hclose]
        · right
          simp [close, hd, alone, hs, hclose]

/-- A listener is bound, or stays as it is. -/
theorem bind_cases (l : Listener H) (w : W) :
    (∃ f, (bind l w).1 = .error f) ∧ (bind l w).2.1 = l ∨
      (bind l w).1 = .ok () ∧ ∃ server, (bind l w).2.1 = { l with server := some server } := by
  cases hs : l.server with
  | some server =>
    rw [bind_of_server hs]
    exact .inr ⟨rfl, server, by rw [← hs]⟩
  | none =>
    have hbinding := binding hs w
    generalize bind l w = out at hbinding
    cases hbinding with
    | prepared => exact .inr ⟨rfl, _, rfl⟩
    | uncreated => exact .inl ⟨⟨_, rfl⟩, rfl⟩
    | rejected => exact .inl ⟨⟨_, rfl⟩, rfl⟩
    | withdrawn => exact .inl ⟨⟨_, rfl⟩, rfl⟩
    | stuck => exact .inl ⟨⟨_, rfl⟩, rfl⟩

end Listener

namespace Server

variable {L : Language}

/-- What a start answers after a fault: that it could not bind, or the fault. -/
def told (f : Fault) : Except Fault Bool :=
  if f.isA .bindError then .ok false else .error f

theorem told_of_bindError {f : Fault} (hf : f.isA .bindError = true) : told f = .ok false :=
  if_pos hf

theorem told_ne_started (f : Fault) : told f ≠ .ok true := by
  rw [told]
  cases f.isA .bindError <;> simp

section Start
variable {s : Server H} {w w' : W} (hrun : s.running = false)
include hrun

section Bound
variable {l : Listener H} {h : H} {w'' : W} (hbind : s.listener.bind w = (.ok (), l, w'))
variable (hs : l.server = some h)
include hbind hs

theorem start_of_named {e : Endpoint} (hname : Sockets.endpoint h w' = (.ok e, w'')) :
    s.start w = (.ok true, ⟨l, true⟩, Sockets.note (.serverStarted e) w'') := by
  rw [start, if_neg (by simp [hrun]), hbind]
  simp [announce, Listener.endpoint?, hs, hname, Except.map]

theorem start_of_unnamed {f : Fault} (hname : Sockets.endpoint h w' = (.error f, w'')) :
    s.start w = (.error f, ⟨l, true⟩, w'') := by
  rw [start, if_neg (by simp [hrun]), hbind]
  simp [announce, Listener.endpoint?, hs, hname, Except.map]

end Bound

theorem start_of_unbound {f : Fault} (hbind : s.listener.bind w = (.error f, s.listener, w')) :
    s.start w =
      (told f, s, if f.isA .bindError then Sockets.note (.notBound f) w' else w') := by
  rw [start, if_neg (by simp [hrun]), hbind, told]
  cases hf : f.isA .bindError <;> simp [hf]

/-- A server that does not run stays as it is, or it is bound and runs. If it runs and its address
cannot be told, the start fails all the same. -/
theorem start_cases (w : W) :
    (s.start w).1 ≠ .ok true ∧ (s.start w).2.1 = s ∨
      ((s.start w).1 = .ok true ∨ ∃ f, (s.start w).1 = .error f) ∧ ∃ server,
        (s.start w).2.1 = ⟨{ s.listener with server := some server }, true⟩ := by
  have hcases := Listener.bind_cases s.listener w
  rcases hbind : Listener.bind s.listener w with ⟨f | u, l, w'⟩
  · rw [hbind] at hcases
    rcases hcases with ⟨_, rfl⟩ | ⟨hok, _⟩
    · rw [start_of_unbound hrun hbind]
      exact .inl ⟨told_ne_started f, rfl⟩
    · contradiction
  · rw [hbind] at hcases
    rcases hcases with ⟨⟨f, hf⟩, _⟩ | ⟨_, server, rfl⟩
    · contradiction
    · rcases hname : Sockets.endpoint server w' with ⟨f | e, w''⟩
      · rw [start_of_unnamed hrun hbind rfl hname]
        exact .inr ⟨.inr ⟨f, rfl⟩, server, rfl⟩
      · rw [start_of_named hrun hbind rfl hname]
        exact .inr ⟨.inl rfl, server, rfl⟩

end Start

/-- A server that could not be stopped goes on with the socket that it listens at. -/
theorem stop_cases (s : Server H) (w : W) :
    (∃ f, (s.stop w).1 = .error f) ∧
        ((s.stop w).2.1 = s ∨ (s.stop w).2.1 = { s with listener := s.listener.alone }) ∨
      (s.stop w).1 = .ok () ∧
        (s.stop w).2.1 = ⟨{ s.listener.alone with server := none }, false⟩ := by
  rw [stop]
  generalize (if s.running then Sockets.note .serverStopping w else w) = w₁
  have hclose := Listener.close_cases s.listener w₁
  generalize Listener.close s.listener w₁ = out at hclose ⊢
  rcases out with ⟨f | u, l, w'⟩
  · rcases hclose with ⟨_, rfl | rfl⟩ | ⟨hok, _⟩
    · exact .inl ⟨⟨f, rfl⟩, .inl rfl⟩
    · exact .inl ⟨⟨f, rfl⟩, .inr rfl⟩
    · contradiction
  · rcases hclose with ⟨⟨f, hf⟩, _⟩ | ⟨_, rfl⟩
    · contradiction
    · exact .inr ⟨rfl, rfl⟩

/-- The servers that there can be. -/
inductive Arises : Server H → Prop where
  | new (s : Settings) : Arises (Server.new s)
  | start {W : Type} [Sockets W H] {s : Server H} (w : W) (hs : Arises s) :
      Arises (s.start w).2.1
  | stop {W : Type} [Sockets W H] {s : Server H} (w : W) (hs : Arises s) : Arises (s.stop w).2.1
  | tick {W : Type} [Sockets W H] {L : Language} {s : Server H} (c : Context L) (w : W)
      (hs : Arises s) : Arises (s.tick c w).2.1

theorem listener_welcome (s : Server H) (w : W) :
    (s.welcome w).2.1 = { s with listener := (s.listener.acceptIfNone w).2.1 } := by
  unfold welcome
  rcases Listener.acceptIfNone s.listener w with ⟨f | _ | _, l, w'⟩
  · rfl
  · rfl
  · dsimp only
    rcases send { s with listener := l } (.connected l.settings.banner) w' with ⟨f | u, w''⟩
    · rfl
    · rfl

theorem listener_serve (s : Server H) (c : Context L) (w : W) :
    (s.serve c w).2.1 = { s with listener := (s.listener.receiveLine w).2.1 } := by
  unfold serve
  rcases Listener.receiveLine s.listener w with ⟨f | _ | line, l, w'⟩
  · rfl
  · rfl
  · rfl

/-- A server runs exactly while its listener is bound, and only then has a client. -/
structure Coherent (s : Server H) : Prop where
  running_eq : s.running = s.listener.isBound
  bound : s.listener.hasClient = true → s.listener.isBound = true

namespace Coherent

variable {s : Server H}

theorem new (settings : Settings) : (Server.new settings : Server H).Coherent where
  running_eq := rfl
  bound h := by contradiction

/-- A server that does not run has no sockets. -/
theorem idle (hs : s.Coherent) (hrun : s.running = false) :
    s.listener.server = none ∧ s.listener.client = none := by
  have hbound : s.listener.isBound = false := hs.running_eq.symm.trans hrun
  refine ⟨Option.not_isSome_iff_eq_none.mp (by rw [← Listener.isBound, hbound]; decide), ?_⟩
  cases hc : s.listener.client with
  | none => rfl
  | some h =>
    have hclient : s.listener.hasClient = true := by rw [Listener.hasClient, hc]; rfl
    rw [hs.bound hclient] at hbound
    contradiction

theorem start (hs : s.Coherent) (w : W) : (s.start w).2.1.Coherent := by
  cases hrun : s.running with
  | true =>
    rw [start_of_running hrun]
    exact hs
  | false =>
    rcases start_cases hrun w with ⟨_, hsame⟩ | ⟨_, server, hstarted⟩
    · rw [hsame]
      exact hs
    · rw [hstarted]
      exact ⟨rfl, fun _ => rfl⟩

theorem stop (hs : s.Coherent) (w : W) : (s.stop w).2.1.Coherent := by
  rcases stop_cases s w with ⟨_, hsame | halone⟩ | ⟨_, hstopped⟩
  · rw [hsame]
    exact hs
  · rw [halone]
    exact ⟨hs.running_eq, fun h => by contradiction⟩
  · rw [hstopped]
    exact ⟨rfl, fun h => by contradiction⟩

theorem welcome (hs : s.Coherent) (w : W) : (s.welcome w).2.1.Coherent := by
  rw [listener_welcome]
  rcases Listener.acceptIfNone_kept s.listener w with hsame | ⟨hbound, h, hheld⟩
  · rw [hsame]
    exact hs
  · rw [hheld]
    exact ⟨hs.running_eq, fun _ => hbound⟩

theorem serve (hs : s.Coherent) (c : Context L) (w : W) : (s.serve c w).2.1.Coherent := by
  obtain ⟨hserver, hclient⟩ := Listener.receiveLine_kept s.listener w
  rw [listener_serve]
  refine ⟨?_, ?_⟩
  · dsimp only
    rw [Listener.isBound, hserver]
    exact hs.running_eq
  · dsimp only
    rw [Listener.hasClient, Listener.isBound, hserver]
    rcases hclient with hsame | hnone
    · rw [hsame]
      exact hs.bound
    · rw [hnone]
      intro h
      contradiction

theorem tick (hs : s.Coherent) (c : Context L) (w : W) : (s.tick c w).2.1.Coherent := by
  have hwelcome := hs.welcome w
  unfold Server.tick
  cases s.running with
  | false => exact hs
  | true =>
    rw [if_pos rfl]
    generalize s.welcome w = out at hwelcome ⊢
    rcases out with ⟨f | u, s', w'⟩
    · exact hwelcome
    · exact hwelcome.serve c w'

end Coherent

/-- A tick neither ends a server nor starts it. -/
theorem running_tick (s : Server H) (c : Context L) (w : W) :
    (s.tick c w).2.1.running = s.running := by
  have hwelcome : (s.welcome w).2.1.running = s.running := by rw [listener_welcome]
  unfold tick
  cases hrun : s.running with
  | false => exact hrun
  | true =>
    rw [if_pos rfl]
    generalize s.welcome w = out at hwelcome ⊢
    rcases out with ⟨f | u, s', w'⟩
    · exact hwelcome.trans hrun
    · dsimp only at hwelcome ⊢
      rw [listener_serve]
      exact hwelcome.trans hrun

theorem Arises.coherent {s : Server H} (hs : s.Arises) : s.Coherent := by
  induction hs with
  | new settings => exact .new settings
  | start w hs ih => exact ih.start w
  | stop w hs ih => exact ih.stop w
  | tick c w hs ih => exact ih.tick c w

theorem Arises.isBound {s : Server H} (hs : s.Arises) (hrun : s.running = true) :
    s.listener.isBound = true :=
  hs.coherent.running_eq.symm.trans hrun

end Server

end LiveConsole.Net
