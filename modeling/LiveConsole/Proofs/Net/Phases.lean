import LiveConsole.Console.Scripts
import LiveConsole.Net.Loopback
import LiveConsole.Proofs.Net.Hosting
import LiveConsole.Proofs.Net.Sheltered
import LiveConsole.Proofs.Net.Unfailing
import Mathlib.Data.List.Induction

/-!
# The two phases of a host

In an orderly network a host that is told to start, tick and stop is in one of two phases at all times.
It has a current server, which runs, from each start that succeeds to the next stop; otherwise it has
none, and a start either gives it a fresh server or leaves it as it was. The fresh server evaluates in the
context that it is given, or in the namespace of the host if the host has one.
-/

namespace LiveConsole.Net
set_option autoImplicit false

variable {W H : Type} [Sockets W H] {L : Language}

namespace Server

/-- What a start comes to in an orderly network. -/
inductive Begins (s : Server H) (w : W) : Except Fault Bool → Server H → Prop where
  | listening {server : H} {e : Endpoint} {w' w'' : W}
      (hbind : s.listener.bind w = (.ok (), { s.listener with server := some server }, w'))
      (hname : Sockets.endpoint server w' = (.ok e, w'')) :
      Begins s w (.ok true) ⟨{ s.listener with server := some server }, true⟩
  | unnamed {server : H} {f : Fault} {w' w'' : W}
      (hbind : s.listener.bind w = (.ok (), { s.listener with server := some server }, w'))
      (hname : Sockets.endpoint server w' = (.error f, w'')) :
      Begins s w (.error f) ⟨{ s.listener with server := some server }, true⟩
  | declined {f e : Fault} (hbars : Bars s.listener w f e) (he : e.isA .bindError = true) :
      Begins s w (.ok false) s
  | untold {f : Fault} {reason : Digits.TooLong}
      (hbars : Bars s.listener w f (.unwritable reason))
      (hreason : s.listener.settings.host.plain = .error reason ∨ f.message = .error reason) :
      Begins s w (.error (.unwritable reason)) s

theorem Begins.of_bars {s : Server H} {w : W} {f e : Fault} (hbars : Bars s.listener w f e) :
    Begins s w (told e) s := by
  rcases hbars.told_cases with he | ⟨reason, hreason, rfl⟩
  · rw [told_of_bindError he]
    exact .declined hbars he
  · exact .untold hbars hreason

theorem begins (hW : Orderly W) {s : Server H} (hs : s.Coherent) (hrun : s.running = false)
    (w : W) : s.Begins w (s.start w).1 (s.start w).2.1 := by
  have hbinding := Listener.binding (hs.idle hrun).1 w
  rcases hbind : s.listener.bind w with ⟨a, l, w'⟩
  rw [hbind] at hbinding
  cases hbinding with
  | @uncreated f _ hcreate =>
    rw [start_of_unbound hrun hbind, if_pos (hW.starts.create hcreate)]
    exact .of_bars (.uncreated hcreate)
  | @prepared h _ _ hcreate hprepare =>
    rcases hname : Sockets.endpoint h w' with ⟨f | e, w''⟩
    · rw [start_of_unnamed hrun hbind rfl hname]
      exact .unnamed hbind hname
    · rw [start_of_named hrun hbind rfl hname]
      exact .listening hbind hname
  | rejected hcreate hprepare hf =>
    rw [hW.starts.prepare hprepare] at hf
    contradiction
  | withdrawn hcreate hprepare hf hclose =>
    rw [start_of_unbound hrun hbind]
    exact .of_bars (.unprepared hcreate hprepare)
  | stuck hcreate hprepare hf hclose =>
    have hclosed := hW.close hclose
    contradiction

/-- In an orderly network a server can always be stopped. -/
theorem stop_orderly (hW : Orderly W) (s : Server H) (w : W) : (s.stop w).1 = .ok () := by
  rw [stop]
  obtain ⟨w', hclose⟩ :=
    Listener.close_orderly hW s.listener (if s.running then Sockets.note .serverStopping w else w)
  rw [hclose]

end Server

namespace Host

/-- Where a server evaluates if it gets no context of its own. -/
def standing (p : Host L H) : Context L :=
  if p.shared then p.own else Context.new defaultFile

/-- The current server of `p'` is a new one of `p`, made with settings for a context. -/
structure Fresh (p : Host L H) (settings : Settings) (c : Option (Context L)) (p' : Host L H)
    (x : Hosted H) : Prop where
  current : p'.current = some p.servers.size
  server : p'.servers[p.servers.size]? = some x
  running : x.server.running = true
  bound : x.server.listener.isBound = true
  settings_eq : x.server.listener.settings = settings
  client : x.server.listener.client = none
  buffer : x.server.listener.buffer = []
  context_eq : p'.context x = c.getD p.standing
  shared : c = none → p.shared = true → x.space = ownSpace

section Adopt
variable {p : Host L H}

omit [Sockets W H] in
theorem context_adopt (s : Server H) (c : Option (Context L)) :
    (p.adopt s c).context ⟨s, (p.place c).1.1, (p.place c).1.2⟩ = c.getD p.standing := by
  cases c with
  | some c => simp [adopt, addServer, place, addSpace, context, space]
  | none =>
    cases hshared : p.shared <;>
      simp [adopt, addServer, place, addSpace, context, space, standing, own, hshared, Context.new]

theorem fresh_adopt (settings : Settings) (server : H) (c : Option (Context L)) :
    p.Fresh settings c
      (p.adopt ⟨{ Listener.new settings with server := some server }, true⟩ c)
      ⟨⟨{ Listener.new settings with server := some server }, true⟩, (p.place c).1.1,
        (p.place c).1.2⟩ where
  current := current_adopt _
  server := by
    rw [servers_adopt]
    exact Array.getElem?_push_size
  running := rfl
  bound := rfl
  settings_eq := rfl
  client := rfl
  buffer := rfl
  context_eq := context_adopt _ c
  shared hc hshared := by
    subst hc
    simp [place, hshared]

end Adopt

/-- What a host that has no running server comes to when it is told to start. -/
inductive Begins (p : Host L H) (base : Settings.Base) (overrides : Datum)
    (c : Option (Context L)) (w : W) : Except StartFailure Bool × Host L H × W → Prop where
  | refused {x : Settings.Refusal} (hmake : Settings.make base overrides = .error x) :
      Begins p base overrides c w (.error (.refused x), p, w)
  | listening {settings : Settings} {p' : Host L H} {x : Hosted H} {w' : W}
      (hmake : Settings.make base overrides = .ok settings) (hx : p.Fresh settings c p' x) :
      Begins p base overrides c w (.ok true, p', w')
  | declined {settings : Settings} {f e : Fault} {w' : W}
      (hmake : Settings.make base overrides = .ok settings)
      (hbars : Bars (Listener.new settings : Listener H) w f e) (he : e.isA .bindError = true) :
      Begins p base overrides c w (.ok false, p, w')
  /-- The text of the host, or that of the fault, cannot be written. -/
  | untold {settings : Settings} {f : Fault} {reason : Digits.TooLong} {w' : W}
      (hmake : Settings.make base overrides = .ok settings)
      (hbars : Bars (Listener.new settings : Listener H) w f (.unwritable reason))
      (hreason : settings.host.plain = .error reason ∨ f.message = .error reason) :
      Begins p base overrides c w (.error (.fault (.unwritable reason)), p, w')
  /-- The new server listens, but its socket cannot tell its address. -/
  | unnamed {settings : Settings} {server : H} {f : Fault} {w₁ w' : W}
      (hmake : Settings.make base overrides = .ok settings)
      (hbind : (Listener.new settings).bind w =
        (.ok (), { Listener.new settings with server := some server }, w₁))
      (hname : Sockets.endpoint server w₁ = (.error f, w')) :
      Begins p base overrides c w (.error (.fault f), p, w')

theorem begins (hW : Orderly W) {p : Host L H} (hp : p.isRunning = false) (base : Settings.Base)
    (overrides : Datum) (c : Option (Context L)) (w : W) :
    Begins p base overrides c w (p.start base overrides c w) := by
  rcases hmake : Settings.make base overrides with x | settings
  · rw [start_of_refused hp hmake]
    exact .refused hmake
  · rw [start_of_made hp hmake]
    have hbegins := Server.begins hW (.new settings) rfl w
    rcases hstart : (Server.new settings).start w with ⟨a, s, w'⟩
    rw [hstart] at hbegins
    cases hbegins with
    | @listening server =>
      rw [launch_of_started hstart]
      exact .listening hmake (fresh_adopt settings server c)
    | @unnamed server f w₁ w₂ hbind hname =>
      rw [launch_of_unstarted hstart (by simp)]
      rw [Server.start_of_unnamed rfl hbind rfl hname] at hstart
      obtain ⟨_, hstate⟩ := Prod.mk.inj hstart
      obtain rfl := (Prod.mk.inj hstate).2
      exact .unnamed hmake hbind hname
    | declined hbars he =>
      rw [launch_of_unstarted hstart (by simp)]
      exact .declined hmake hbars he
    | untold hbars hreason =>
      rw [launch_of_unstarted hstart (by simp)]
      exact .untold hmake hbars hreason

/-- The current server runs. -/
structure Settled (p : Host L H) : Prop where
  tended : p.Tended
  runs : ∀ n, p.current = some n → ∃ x : Hosted H, p.servers[n]? = some x ∧ x.server.running = true

namespace Settled

variable {p : Host L H}

theorem isRunning_of_current (h : p.Settled) {n : Nat} (hn : p.current = some n) :
    p.isRunning = true := by
  obtain ⟨x, hx, hrun⟩ := h.runs n hn
  rw [isRunning, currentServer?_eq_some_iff.mpr ⟨n, hn, hx⟩]
  exact hrun

theorem current_of_not_isRunning (h : p.Settled) (hp : p.isRunning = false) :
    p.current = none := by
  cases hn : p.current with
  | none => rfl
  | some n =>
    rw [h.isRunning_of_current hn] at hp
    contradiction

theorem isRunning_iff (h : p.Settled) : p.isRunning = true ↔ p.currentServer?.isSome = true := by
  cases hn : p.current with
  | none => simp [isRunning, currentServer?, hn]
  | some n =>
    obtain ⟨x, hx, hrun⟩ := h.runs n hn
    simp [isRunning, currentServer?_eq_some_iff.mpr ⟨n, hn, hx⟩, hrun]

theorem of_current_eq_none (h : p.Tended) (hcurrent : p.current = none) : p.Settled where
  tended := h
  runs n hn := by
    rw [hcurrent] at hn
    contradiction

theorem of_fresh {p' : Host L H} {settings : Settings} {c : Option (Context L)} {x : Hosted H}
    (htended : p'.Tended) (hx : p.Fresh settings c p' x) : p'.Settled where
  tended := htended
  runs n hn := by
    obtain rfl := Option.some.inj (hx.current.symm.trans hn)
    exact ⟨x, hx.server, hx.running⟩

theorem tick (h : p.Settled) (w : W) : (p.tick w).2.1.Settled := by
  refine ⟨h.tended.tick w, ?_⟩
  cases hx : p.currentServer? with
  | none =>
    rw [tick_of_absent hx]
    exact h.runs
  | some x =>
    obtain ⟨n, hn, hx'⟩ := currentServer?_eq_some_iff.mp hx
    obtain ⟨y, hy, hrun⟩ := h.runs n hn
    obtain rfl := Option.some.inj (hx'.symm.trans hy)
    rw [tick_of_present hn hx' rfl]
    intro m hm
    obtain rfl := Option.some.inj (hn.symm.trans hm)
    refine ⟨_, getElem?_put_self hx' _ _, ?_⟩
    exact (Server.running_tick x.server (p.context x) w).trans hrun

section Orderly
variable (hW : Orderly W)
include hW

theorem current_stop (h : p.Settled) (w : W) : (p.stop w).2.1.current = none := by
  cases hn : p.current with
  | none =>
    have hx : p.currentServer? = none := by rw [currentServer?, hn]; rfl
    rw [stop_of_absent hx]
  | some n =>
    obtain ⟨x, hx, _⟩ := h.runs n hn
    have hstopped := Server.stop_orderly hW x.server w
    rcases hstop : x.server.stop w with ⟨a, s, w'⟩
    rw [hstop] at hstopped
    dsimp only at hstopped
    subst hstopped
    rw [stop_of_stopped hn hx hstop]

theorem start (h : p.Settled) (base : Settings.Base) (overrides : Datum)
    (c : Option (Context L)) (w : W) : (p.start base overrides c w).2.1.Settled ∧
      ((p.start base overrides c w).2.1.isRunning = true ↔
        p.isRunning = true ∨ (p.start base overrides c w).1 = .ok true) := by
  cases hp : p.isRunning with
  | true =>
    rw [start_of_isRunning hp]
    exact ⟨h, by simp [hp]⟩
  | false =>
    have htended := h.tended.start base overrides c w
    have hbegins := begins hW hp base overrides c w
    generalize p.start base overrides c w = out at htended hbegins
    cases hbegins with
    | refused => exact ⟨h, by simp [hp]⟩
    | declined => exact ⟨h, by simp [hp]⟩
    | untold => exact ⟨h, by simp [hp]⟩
    | unnamed => exact ⟨h, by simp [hp]⟩
    | listening _ hx =>
      have hsettled := of_fresh htended hx
      exact ⟨hsettled, by simp [hsettled.isRunning_of_current hx.current]⟩

end Orderly
end Settled

/-- The last commands begin with a start that succeeds while no server runs, and hold no stop. -/
def Ongoing (p : Host L H) (w : W) (os : List (Command L)) : Prop :=
  ∃ before base overrides c after, os = before ++ .start base overrides c :: after ∧
    (∀ o ∈ after, o ≠ .stop) ∧ (obeyAll before p w).1.isRunning = false ∧
    ((obeyAll before p w).1.start base overrides c (obeyAll before p w).2).1 = .ok true

theorem ongoing_concat_iff {p : Host L H} {w : W} {os : List (Command L)} {o : Command L} :
    Ongoing p w (os ++ [o]) ↔ Ongoing p w os ∧ o ≠ .stop ∨
      ∃ base overrides c, o = .start base overrides c ∧ (obeyAll os p w).1.isRunning = false ∧
        ((obeyAll os p w).1.start base overrides c (obeyAll os p w).2).1 = .ok true := by
  constructor
  · rintro ⟨before, base, overrides, c, after, heq, hafter, hidle, hok⟩
    rcases List.eq_nil_or_concat after with rfl | ⟨after, last, rfl⟩
    · obtain ⟨rfl, hlast⟩ := List.append_inj' heq rfl
      exact .inr ⟨base, overrides, c, (List.cons.inj hlast).1, hidle, hok⟩
    · rw [List.concat_eq_append] at heq hafter
      rw [← List.cons_append, ← List.append_assoc] at heq
      obtain ⟨rfl, hlast⟩ := List.append_inj' heq rfl
      obtain rfl := (List.cons.inj hlast).1
      refine .inl ⟨⟨before, base, overrides, c, after, rfl, ?_, hidle, hok⟩, hafter o (by simp)⟩
      intro x hx
      exact hafter x (List.mem_append_left _ hx)
  · rintro (⟨⟨before, base, overrides, c, after, rfl, hafter, hidle, hok⟩, ho⟩ |
      ⟨base, overrides, c, rfl, hidle, hok⟩)
    · refine ⟨before, base, overrides, c, after ++ [o], by simp, ?_, hidle, hok⟩
      intro x hx
      rcases List.mem_append.mp hx with hx | hx
      · exact hafter x hx
      · rwa [List.mem_singleton.mp hx]
    · exact ⟨os, base, overrides, c, [], rfl, fun x hx => by contradiction, hidle, hok⟩

theorem settled_obeyAll (hW : Orderly W) {p : Host L H} {w : W} (hp : p.servers = #[])
    (hcurrent : p.current = none) (os : List (Command L)) (hos : ∀ o ∈ os, ∀ n, o ≠ .halt n) :
    (obeyAll os p w).1.Settled ∧ ((obeyAll os p w).1.isRunning = true ↔ Ongoing p w os) := by
  induction os using List.reverseRecOn with
  | nil =>
    refine ⟨.of_current_eq_none (.nil hp) hcurrent, ?_⟩
    have hidle : (obeyAll [] p w).1.isRunning = false := isRunning_of_none hcurrent
    rw [hidle]
    refine ⟨fun h => by contradiction, ?_⟩
    rintro ⟨before, base, overrides, c, after, heq, _⟩
    simp at heq
  | append_singleton os o ih =>
    obtain ⟨hsettled, hiff⟩ := ih fun x hx => hos x (List.mem_append_left _ hx)
    rw [obeyAll_concat, ongoing_concat_iff, ← hiff]
    cases o with
    | start base overrides c =>
      obtain ⟨hstarted, hrunning⟩ :=
        hsettled.start hW base overrides c (obeyAll os p w).2
      refine ⟨hstarted, hrunning.trans ?_⟩
      cases (obeyAll os p w).1.isRunning <;> simp
    | stop =>
      have hnone := hsettled.current_stop hW (obeyAll os p w).2
      have hidle := isRunning_of_none hnone
      refine ⟨.of_current_eq_none (hsettled.tended.stop _) hnone, ?_⟩
      rw [obey, hidle]
      simp
    | tick =>
      refine ⟨hsettled.tick _, ?_⟩
      rw [obey, isRunning_tick]
      simp
    | halt n => exact absurd rfl (hos (.halt n) (by simp) n)

/-- In an orderly network a host has a current server exactly while one runs, and that is from the last
start that succeeded while none did to the next stop. A start of a running host changes nothing. A start
of a host without a server gives it a fresh one, or leaves it as it was, and so do its stop and tick. -/
theorem two_phases (hW : Orderly W) {p : Host L H} (hp : p.servers = #[])
    (hcurrent : p.current = none) (w : W) (os : List (Command L))
    (hos : ∀ o ∈ os, ∀ n, o ≠ .halt n) :
    ∃ p' w', obeyAll os p w = (p', w') ∧
      (p'.isRunning = true ↔ p'.currentServer?.isSome = true) ∧
      (p'.isRunning = true ↔ Ongoing p w os) ∧
      (p'.isRunning = true → ∀ base overrides c,
        p'.start base overrides c w' = (.ok true, p', w')) ∧
      (p'.isRunning = false → p'.current = none ∧ p'.stop w' = (.ok (), p', w') ∧
        p'.tick w' = (.ok (), p', w') ∧ ∀ base overrides c,
          Begins p' base overrides c w' (p'.start base overrides c w')) := by
  obtain ⟨hsettled, hiff⟩ := settled_obeyAll hW hp hcurrent (w := w) os hos
  rcases hrun : obeyAll os p w with ⟨p', w'⟩
  rw [hrun] at hsettled hiff
  refine ⟨p', w', rfl, hsettled.isRunning_iff, hiff, ?_, ?_⟩
  · intro hrunning base overrides c
    exact start_of_isRunning hrunning base overrides c w'
  · intro hidle
    have hnone := hsettled.current_of_not_isRunning hidle
    refine ⟨hnone, stop_of_none hnone w', tick_of_none hnone w', ?_⟩
    intro base overrides c
    exact begins hW hidle base overrides c w'

/-- A network in which the address is in use at first, and a visitor comes after that. -/
def hesitant : Sheltered :=
  ⟨⟨[.caller (.visitor ⟨[], ⟨.ok [], ends_nil⟩, [], .done⟩)], []⟩, [Sheltered.inUse], []⟩

/-- A start that cannot bind, one with a name that is no option, and one that succeeds; after it, one
with a port that cannot be is passed over. -/
def rounds : List (Command scripts) :=
  [.tick, .stop, .start .initial (.dict []) none,
    .start .initial (.dict [(.text "prot", .int 8172)]) none, .start .initial (.dict []) none,
    .start .initial (.dict [(.text "port", .int (-1))]) none, .tick, .tick, .stop, .tick,
    .start (.layer (.dict [(.text "port", .int 0)])) (.dict []) none, .tick]

theorem rounds_phases :
    (initial : Host scripts Nat).servers = #[] ∧ (initial : Host scripts Nat).current = none ∧
    (∀ o ∈ rounds, ∀ n, o ≠ .halt n) ∧
    ∃ p w, obeyAll rounds (initial : Host scripts Nat) hesitant = (p, w) ∧
      p.isRunning = true ∧ p.currentServer?.isSome = true ∧
      Ongoing (initial : Host scripts Nat) hesitant rounds ∧
      ∀ base overrides c, p.start base overrides c w = (.ok true, p, w) := by
  have hrounds : ∀ o ∈ rounds, ∀ n, o ≠ .halt n := by
    intro o ho n hn
    subst hn
    simp [rounds] at ho
  obtain ⟨p, w, hrun, hserver, hongoing, hstart, _⟩ := two_phases Sheltered.orderly
    (p := (initial : Host scripts Nat)) rfl rfl hesitant rounds hrounds
  have hrunning : p.isRunning = true := by
    obtain rfl : (obeyAll rounds (initial : Host scripts Nat) hesitant).1 = p :=
      congrArg Prod.fst hrun
    decide +kernel
  exact ⟨rfl, rfl, hrounds, p, w, hrun, hrunning, hserver.mp hrunning, hongoing.mp hrunning,
    hstart hrunning⟩

/-- A host whose own namespace is not given to servers. -/
def bare : Host scripts Nat := { initial with shared := false }

/-- A server that it starts without a context evaluates in a namespace that is not that of the host. -/
theorem bare_apart :
    (match bare.start .initial (.dict []) none Loopback.initial with
    | (.ok true, p, _) =>
      p.own.has "__name__" && p.currentServer?.any fun x => !(p.context x).has "__name__"
    | _ => false) = true := by
  decide +kernel

end Host
end LiveConsole.Net
