import LiveConsole.Net.Host
import LiveConsole.Proofs.Net.Lifetime

/-!
# The servers of a host

Whatever a host is told to do, and whatever its network answers, each of its servers runs exactly while
its listener is bound, and only the current one can run.
-/

namespace LiveConsole.Net
set_option autoImplicit false

variable {W H : Type} [Sockets W H] {L : Language}

namespace Server

/-- Stopping a server without sockets makes no call. -/
theorem stop_of_idle {s : Server H} (hs : s.Coherent) (hrun : s.running = false) (w : W) :
    s.stop w = (.ok (), ⟨{ s.listener.alone with server := none }, false⟩, w) := by
  obtain ⟨hserver, hclient⟩ := hs.idle hrun
  simp [stop, hrun, Listener.close, Listener.dropClient, hclient, hserver, Listener.alone]

end Server

namespace Host

/-- What a host can be told. -/
inductive Command (L : Language) where
  | start (base : Settings.Base) (overrides : Datum) (c : Option (Context L))
  | stop
  | tick
  /-- To stop the server of a number, which remains the current one if it was. -/
  | halt (n : Nat)

def obey (o : Command L) (p : Host L H) (w : W) : Host L H × W :=
  match o with
  | .start base overrides c => (p.start base overrides c w).2
  | .stop => (p.stop w).2
  | .tick => (p.tick w).2
  | .halt n => (stopServer n p w).2

/-- The host goes on whatever becomes of a command. -/
def obeyAll (os : List (Command L)) (p : Host L H) (w : W) : Host L H × W :=
  os.foldl (fun x o => obey o x.1 x.2) (p, w)

theorem obeyAll_concat (os : List (Command L)) (o : Command L) (p : Host L H) (w : W) :
    obeyAll (os ++ [o]) p w = obey o (obeyAll os p w).1 (obeyAll os p w).2 :=
  List.foldl_append

section Act
omit [Sockets W H]

variable {α : Type} {absent : α}
variable {action : Server H → Context L → W → α × Server H × Context L × W}
variable {n : Nat} {p : Host L H} {w w' : W}

theorem act_of_none (h : p.servers[n]? = none) : act absent action n p w = (absent, p, w) := by
  rw [act, h]

theorem act_of_some {x : Hosted H} {a : α} {s : Server H} {c : Context L}
    (h : p.servers[n]? = some x) (haction : action x.server (p.context x) w = (a, s, c, w')) :
    act absent action n p w = (a, p.put n x s c, w') := by
  rw [act, h]
  simp only [haction]

end Act

section Put
variable {p : Host L H} {n : Nat} {old : Hosted H} (hold : p.servers[n]? = some old)
variable (s : Server H) (c : Context L)

@[simp] theorem current_put : (p.put n old s c).current = p.current := rfl

theorem getElem?_put_of_ne {m : Nat} (hne : m ≠ n) :
    (p.put n old s c).servers[m]? = p.servers[m]? :=
  Array.getElem?_setIfInBounds_ne hne.symm

include hold in
theorem getElem?_put_self :
    (p.put n old s c).servers[n]? = some { old with server := s, file := c.file } := by
  obtain ⟨hlt, _⟩ := Array.getElem?_eq_some_iff.mp hold
  exact Array.getElem?_setIfInBounds_self_of_lt hlt

end Put

section Current
variable {p : Host L H} {n : Nat} {x : Hosted H}

theorem stopServer_of_none (hx : p.servers[n]? = none) (w : W) :
    stopServer n p w = (.ok (), p, w) :=
  act_of_none hx

theorem stopServer_of_some {a : Except Fault Unit} {s : Server H} {w w' : W}
    (hx : p.servers[n]? = some x) (hstop : x.server.stop w = (a, s, w')) :
    stopServer n p w = (a, p.put n x s (p.context x), w') :=
  act_of_some hx (by rw [hstop])

theorem currentServer?_eq_some_iff :
    p.currentServer? = some x ↔ ∃ n, p.current = some n ∧ p.servers[n]? = some x :=
  Option.bind_eq_some_iff

theorem currentServer?_put (hn : p.current = some n) (hx : p.servers[n]? = some x) (s : Server H)
    (c : Context L) :
    (p.put n x s c).currentServer? = some { x with server := s, file := c.file } :=
  currentServer?_eq_some_iff.mpr ⟨n, hn, getElem?_put_self hx s c⟩

theorem currentServer?_put_of_ne (hn : p.current ≠ some n) (s : Server H) (c : Context L) :
    (p.put n x s c).currentServer? = p.currentServer? := by
  cases hm : p.current with
  | none => simp [currentServer?, hm]
  | some m =>
    rw [currentServer?, currentServer?, current_put, hm]
    exact getElem?_put_of_ne s c (by rintro rfl; exact hn hm)

theorem running_of_not_isRunning (hp : p.isRunning = false) (hx : p.currentServer? = some x) :
    x.server.running = false := by
  rw [isRunning, hx] at hp
  exact hp

theorem stop_of_none (hn : p.current = none) (w : W) : p.stop w = (.ok (), p, w) := by
  rw [Host.stop, hn]

theorem stop_of_absent (hx : p.currentServer? = none) (w : W) :
    p.stop w = (.ok (), { p with current := none }, w) := by
  cases hn : p.current with
  | none =>
    have hsame : { p with current := none } = p := by rw [← hn]
    rw [stop_of_none hn, hsame]
  | some n =>
    rw [currentServer?, hn] at hx
    simp only [Host.stop, hn, stopServer_of_none hx]

theorem stop_of_stopped {s : Server H} {w w' : W} (hn : p.current = some n)
    (hx : p.servers[n]? = some x) (hstop : x.server.stop w = (.ok (), s, w')) :
    p.stop w = (.ok (), { p.put n x s (p.context x) with current := none }, w') := by
  simp only [Host.stop, hn, stopServer_of_some hx hstop]

theorem stop_of_stuck {f : Fault} {s : Server H} {w w' : W} (hn : p.current = some n)
    (hx : p.servers[n]? = some x) (hstop : x.server.stop w = (.error f, s, w')) :
    p.stop w = (.error f, p.put n x s (p.context x), w') := by
  simp only [Host.stop, hn, stopServer_of_some hx hstop]

theorem tick_of_absent (hx : p.currentServer? = none) (w : W) : p.tick w = (.ok (), p, w) := by
  cases hn : p.current with
  | none => rw [Host.tick, hn]
  | some n =>
    rw [currentServer?, hn] at hx
    rw [Host.tick, hn]
    exact act_of_none hx

theorem tick_of_present {a : Except (Server.Escape L) Unit} {s : Server H} {c : Context L}
    {w w' : W} (hn : p.current = some n) (hx : p.servers[n]? = some x)
    (htick : x.server.tick (p.context x) w = (a, s, c, w')) :
    p.tick w = (a, p.put n x s c, w') := by
  rw [Host.tick, hn]
  exact act_of_some hx htick

theorem current_tick (p : Host L H) (w : W) : (p.tick w).2.1.current = p.current := by
  cases hx : p.currentServer? with
  | none => rw [tick_of_absent hx]
  | some x =>
    obtain ⟨n, hn, hx⟩ := currentServer?_eq_some_iff.mp hx
    rw [tick_of_present hn hx rfl]
    rfl

theorem isRunning_tick (p : Host L H) (w : W) : (p.tick w).2.1.isRunning = p.isRunning := by
  cases hx : p.currentServer? with
  | none => rw [tick_of_absent hx]
  | some x =>
    obtain ⟨n, hn, hx'⟩ := currentServer?_eq_some_iff.mp hx
    rw [tick_of_present hn hx' rfl, isRunning, currentServer?_put hn hx', isRunning, hx]
    exact Server.running_tick x.server (p.context x) w

end Current

/-- The host with a new server as the current one. -/
def adopt (s : Server H) (c : Option (Context L)) (p : Host L H) : Host L H :=
  { (p.addServer s c).2 with current := some (p.addServer s c).1 }

section Launch
variable {p : Host L H} {c : Option (Context L)}

theorem servers_place : (p.place c).2.servers = p.servers := by
  cases c with
  | some c => rfl
  | none => cases hshared : p.shared <;> simp [place, hshared, addSpace]

theorem servers_adopt (s : Server H) :
    (p.adopt s c).servers = p.servers.push ⟨s, (p.place c).1.1, (p.place c).1.2⟩ := by
  have hpush : (p.adopt s c).servers =
      (p.place c).2.servers.push ⟨s, (p.place c).1.1, (p.place c).1.2⟩ := rfl
  rw [hpush, servers_place]

theorem current_adopt (s : Server H) : (p.adopt s c).current = some p.servers.size := by
  have hsize : (p.adopt s c).current = some (p.place c).2.servers.size := rfl
  rw [hsize, servers_place]

theorem currentServer?_adopt (s : Server H) :
    (p.adopt s c).currentServer? = some ⟨s, (p.place c).1.1, (p.place c).1.2⟩ := by
  rw [currentServer?, current_adopt, servers_adopt]
  exact Array.getElem?_push_size

variable {settings : Settings} {w w' : W} {s : Server H}

theorem launch_of_started (h : (Server.new settings).start w = (.ok true, s, w')) :
    p.launch settings c w = (.ok true, p.adopt s c, w') := by
  rw [launch, h]
  rfl

theorem launch_of_unstarted {a : Except Fault Bool}
    (h : (Server.new settings).start w = (a, s, w')) (ha : a ≠ .ok true) :
    p.launch settings c w = (a.mapError .fault, p, w') := by
  rw [launch, h]
  rcases a with f | _ | _
  · rfl
  · rfl
  · contradiction

section Start
variable {base : Settings.Base} {overrides : Datum} (hp : p.isRunning = false)
include hp

theorem start_of_refused {x : Settings.Refusal} (h : Settings.make base overrides = .error x)
    (w : W) : p.start base overrides c w = (.error (.refused x), p, w) := by
  simp [start, hp, h]

theorem start_of_made (h : Settings.make base overrides = .ok settings) (w : W) :
    p.start base overrides c w = p.launch settings c w := by
  simp [start, hp, h]

end Start
end Launch

/-- Every server runs exactly while its listener is bound, and only the current one can run. -/
structure Tended (p : Host L H) : Prop where
  coherent : ∀ (n : Nat) (x : Hosted H), p.servers[n]? = some x → x.server.Coherent
  idle : ∀ (n : Nat) (x : Hosted H), p.servers[n]? = some x → p.current ≠ some n →
    x.server.running = false

namespace Tended

variable {p : Host L H} {n : Nat} {old : Hosted H} {s : Server H}

theorem nil (h : p.servers = #[]) : p.Tended where
  coherent n x hx := by simp [h] at hx
  idle n x hx := by simp [h] at hx

theorem all_idle (h : p.Tended) (hp : p.isRunning = false) {x : Hosted H}
    (hx : p.servers[n]? = some x) : x.server.running = false := by
  by_cases hn : p.current = some n
  · exact running_of_not_isRunning hp (currentServer?_eq_some_iff.mpr ⟨n, hn, hx⟩)
  · exact h.idle n x hx hn

theorem put (h : p.Tended) (hold : p.servers[n]? = some old) (hs : s.Coherent)
    (hrun : p.current ≠ some n → s.running = false) (c : Context L) :
    (p.put n old s c).Tended := by
  refine ⟨?_, ?_⟩
  · intro m x hx
    by_cases hm : m = n
    · subst hm
      rw [getElem?_put_self hold, Option.some.injEq] at hx
      subst hx
      exact hs
    · rw [getElem?_put_of_ne s c hm] at hx
      exact h.coherent m x hx
  · intro m x hx hne
    by_cases hm : m = n
    · subst hm
      rw [getElem?_put_self hold, Option.some.injEq] at hx
      subst hx
      exact hrun hne
    · rw [getElem?_put_of_ne s c hm] at hx
      exact h.idle m x hx hne

theorem adopt (h : p.Tended) (hp : p.isRunning = false) (hs : s.Coherent)
    (c : Option (Context L)) : (p.adopt s c).Tended := by
  refine ⟨?_, ?_⟩
  · intro m x hx
    rw [servers_adopt, Array.getElem?_push] at hx
    by_cases hm : m = p.servers.size
    · rw [if_pos hm, Option.some.injEq] at hx
      subst hx
      exact hs
    · rw [if_neg hm] at hx
      exact h.coherent m x hx
  · intro m x hx hne
    rw [servers_adopt, Array.getElem?_push] at hx
    rw [current_adopt, ne_eq, Option.some.injEq] at hne
    rw [if_neg (Ne.symm hne)] at hx
    exact h.all_idle hp hx

/-- The current server is let go when it does not run. -/
theorem release (h : p.Tended)
    (hidle : ∀ x, p.currentServer? = some x → x.server.running = false) :
    Tended { p with current := none } := by
  refine ⟨h.coherent, ?_⟩
  intro n x hx _
  by_cases hn : p.current = some n
  · exact hidle x (currentServer?_eq_some_iff.mpr ⟨n, hn, hx⟩)
  · exact h.idle n x hx hn

theorem start (h : p.Tended) (base : Settings.Base) (overrides : Datum) (c : Option (Context L))
    (w : W) : (p.start base overrides c w).2.1.Tended := by
  cases hp : p.isRunning with
  | true =>
    rw [start_of_isRunning hp]
    exact h
  | false =>
    rcases hmake : Settings.make base overrides with x | settings
    · rw [start_of_refused hp hmake]
      exact h
    · rw [start_of_made hp hmake]
      have hcoherent := (Server.Coherent.new (H := H) settings).start w
      rcases hstart : (Server.new settings).start w with ⟨a, s, w'⟩
      rw [hstart] at hcoherent
      by_cases ha : a = .ok true
      · subst ha
        rw [launch_of_started hstart]
        exact h.adopt hp hcoherent c
      · rw [launch_of_unstarted hstart ha]
        exact h

theorem stopServer (h : p.Tended) (n : Nat) (w : W) : (stopServer n p w).2.1.Tended := by
  cases hx : p.servers[n]? with
  | none =>
    rw [stopServer_of_none hx]
    exact h
  | some x =>
    have hcoherent := (h.coherent n x hx).stop w
    have hidle := fun hn => Server.stop_of_idle (h.coherent n x hx) (h.idle n x hx hn) w
    rcases hstop : x.server.stop w with ⟨a, s, w'⟩
    rw [hstop] at hcoherent hidle
    rw [stopServer_of_some hx hstop]
    refine h.put hx hcoherent ?_ _
    intro hn
    obtain ⟨_, hstate⟩ := Prod.mk.inj (hidle hn)
    rw [(Prod.mk.inj hstate).1]

theorem stop (h : p.Tended) (w : W) : (p.stop w).2.1.Tended := by
  cases hx : p.currentServer? with
  | none =>
    rw [stop_of_absent hx]
    exact h.release fun x hx' => by simp [hx] at hx'
  | some x =>
    obtain ⟨n, hn, hx⟩ := currentServer?_eq_some_iff.mp hx
    have hstopped := h.stopServer n w
    have hcases := x.server.stop_cases w
    rcases hstop : x.server.stop w with ⟨f | u, s, w'⟩
    · rw [stopServer_of_some hx hstop] at hstopped
      rw [stop_of_stuck hn hx hstop]
      exact hstopped
    · rw [stopServer_of_some hx hstop] at hstopped
      rw [hstop] at hcases
      rw [stop_of_stopped hn hx hstop]
      refine hstopped.release fun y hy => ?_
      rw [currentServer?_put hn hx, Option.some.injEq] at hy
      subst hy
      rcases hcases with ⟨⟨f, hf⟩, _⟩ | ⟨_, rfl⟩
      · contradiction
      · rfl

theorem tick (h : p.Tended) (w : W) : (p.tick w).2.1.Tended := by
  cases hx : p.currentServer? with
  | none =>
    rw [tick_of_absent hx]
    exact h
  | some x =>
    obtain ⟨n, hn, hx⟩ := currentServer?_eq_some_iff.mp hx
    rw [tick_of_present hn hx rfl]
    refine h.put hx ((h.coherent n x hx).tick (p.context x) w) ?_ _
    intro hne
    exact absurd hn hne

theorem obey (h : p.Tended) (o : Command L) (w : W) : (obey o p w).1.Tended := by
  cases o with
  | start base overrides c => exact h.start base overrides c w
  | stop => exact h.stop w
  | tick => exact h.tick w
  | halt n => exact h.stopServer n w

end Tended
end Host
end LiveConsole.Net
