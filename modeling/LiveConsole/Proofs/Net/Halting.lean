import LiveConsole.Console.Scripts
import LiveConsole.Net.Loopback
import LiveConsole.Proofs.Net.Hosting
import Mathlib.Data.List.Induction

/-!
# Servers that are stopped directly

A server can be stopped by its number and not by the host, which then still has it as the current one. A
start that fails leaves it so: only a start that succeeds or a stop of the host lets the old server go.
-/

namespace LiveConsole.Net.Host
set_option autoImplicit false

variable {W H : Type} [Sockets W H] {L : Language} {p : Host L H} {n : Nat}

/-- A start either ends with a server that runs, or it changes nothing. -/
theorem start_cases (p : Host L H) (base : Settings.Base) (overrides : Datum)
    (c : Option (Context L)) (w : W) :
    (p.start base overrides c w).1 = .ok true ∧
        (p.start base overrides c w).2.1.isRunning = true ∨
      (p.start base overrides c w).1 ≠ .ok true ∧ p.isRunning = false ∧
        (p.start base overrides c w).2.1 = p := by
  cases hp : p.isRunning with
  | true =>
    rw [start_of_isRunning hp]
    exact .inl ⟨rfl, hp⟩
  | false =>
    rcases hmake : Settings.make base overrides with x | settings
    · rw [start_of_refused hp hmake]
      exact .inr ⟨by simp, rfl, rfl⟩
    · rw [start_of_made hp hmake]
      have hcases := Server.start_cases (s := Server.new (H := H) settings) rfl w
      rcases hstart : (Server.new settings).start w with ⟨a, s, w'⟩
      rw [hstart] at hcases
      by_cases ha : a = .ok true
      · subst ha
        obtain ⟨-, server, rfl⟩ := hcases.resolve_left fun h => h.1 rfl
        rw [launch_of_started hstart]
        refine .inl ⟨rfl, ?_⟩
        rw [isRunning, currentServer?_adopt]
        rfl
      · rw [launch_of_unstarted hstart ha]
        refine .inr ⟨?_, rfl, rfl⟩
        rcases a with f | _ | _
        · simp [Except.mapError]
        · simp [Except.mapError]
        · contradiction

/-- A stop lets the current server go, unless it fails and the server runs on. -/
theorem stop_outcome (h : p.Tended) (w : W) :
    (p.stop w).2.1.current = none ∨ (p.stop w).2.1.isRunning = true := by
  cases hx : p.currentServer? with
  | none =>
    rw [stop_of_absent hx]
    exact .inl rfl
  | some x =>
    obtain ⟨n, hn, hx⟩ := currentServer?_eq_some_iff.mp hx
    have hcases := x.server.stop_cases w
    rcases hstop : x.server.stop w with ⟨a, s, w'⟩
    rw [hstop] at hcases
    rcases hcases with ⟨⟨f, rfl⟩, hs⟩ | ⟨rfl, -⟩
    · have hrun : x.server.running = true := by
        cases hrun : x.server.running with
        | true => rfl
        | false =>
          rw [Server.stop_of_idle (h.coherent n x hx) hrun] at hstop
          simp at hstop
      rw [stop_of_stuck hn hx hstop, isRunning, currentServer?_put hn hx]
      rcases hs with rfl | rfl
      · exact .inr hrun
      · exact .inr hrun
    · rw [stop_of_stopped hn hx hstop]
      exact .inl rfl

theorem current_stopServer (p : Host L H) (n : Nat) (w : W) :
    (stopServer n p w).2.1.current = p.current := by
  cases hx : p.servers[n]? with
  | none => rw [stopServer_of_none hx]
  | some x => rw [stopServer_of_some hx rfl, current_put]

theorem isRunning_stopServer_of_ne (hn : p.current ≠ some n) (w : W) :
    (stopServer n p w).2.1.isRunning = p.isRunning := by
  cases hx : p.servers[n]? with
  | none => rw [stopServer_of_none hx]
  | some x => rw [stopServer_of_some hx rfl, isRunning, currentServer?_put_of_ne hn, isRunning]

theorem isRunning_stopServer_of_idle (h : p.Tended) (hp : p.isRunning = false) (n : Nat) (w : W) :
    (stopServer n p w).2.1.isRunning = false := by
  cases hx : p.servers[n]? with
  | none => rw [stopServer_of_none hx, hp]
  | some x =>
    by_cases hn : p.current = some n
    · have hstop := Server.stop_of_idle (h.coherent n x hx) (h.all_idle hp hx) w
      rw [stopServer_of_some hx hstop, isRunning, currentServer?_put hn hx]
      rfl
    · rw [isRunning_stopServer_of_ne hn, hp]

/-- The current server of the number does not run. -/
def Idles (p : Host L H) (n : Nat) : Prop := p.current = some n ∧ p.isRunning = false

/-- A current server that does not run is left from before the command, or just stopped directly. -/
theorem idles_obey_iff (h : p.Tended) (o : Command L) (w : W) : (obey o p w).1.Idles n ↔
    (p.Idles n ∧ o ≠ .stop ∧ ∀ base overrides c, o = .start base overrides c →
      (p.start base overrides c w).1 ≠ .ok true) ∨
    (o = .halt n ∧ p.current = some n ∧ p.isRunning = true ∧ (obey o p w).1.isRunning = false) := by
  cases o with
  | start base overrides c =>
    rcases p.start_cases base overrides c w with ⟨hok, hruns⟩ | ⟨hfails, hidle, hsame⟩
    · simp [Idles, obey, hok, hruns]
    · simp [Idles, obey, hfails, hsame]
  | stop =>
    rcases stop_outcome h w with hnone | hruns
    · simp [Idles, obey, hnone]
    · simp [Idles, obey, hruns]
  | tick => simp [Idles, obey, current_tick, isRunning_tick]
  | halt m =>
    cases hp : p.isRunning with
    | false =>
      simp [Idles, obey, hp, current_stopServer, isRunning_stopServer_of_idle h hp]
    | true =>
      simp only [Idles, obey, hp, current_stopServer, Command.halt.injEq]
      constructor
      · rintro ⟨hn, hstops⟩
        refine .inr ⟨?_, hn, trivial, hstops⟩
        by_contra hne
        have hother : p.current ≠ some m := by
          rw [hn]
          exact fun heq => hne (Option.some.inj heq).symm
        rw [isRunning_stopServer_of_ne hother, hp] at hstops
        contradiction
      · rintro (⟨⟨-, hidle⟩, -⟩ | ⟨-, hn, -, hstops⟩)
        · contradiction
        · exact ⟨hn, hstops⟩

/-- The current server of the number has been stopped directly, and since then no start has succeeded and
no stop was told. -/
inductive Left (p : Host L H) (w : W) : List (Command L) → Nat → Prop where
  | halted {os : List (Command L)} {n : Nat} (hcurrent : (obeyAll os p w).1.current = some n)
      (hruns : (obeyAll os p w).1.isRunning = true)
      (hstops : (obeyAll (os ++ [.halt n]) p w).1.isRunning = false) :
      Left p w (os ++ [.halt n]) n
  | kept {os : List (Command L)} {n : Nat} {o : Command L} (hleft : Left p w os n)
      (hstop : o ≠ .stop)
      (hstart : ∀ base overrides c, o = .start base overrides c →
        ((obeyAll os p w).1.start base overrides c (obeyAll os p w).2).1 ≠ .ok true) :
      Left p w (os ++ [o]) n

theorem tended_obeyAll (hp : p.Tended) (w : W) (os : List (Command L)) :
    (obeyAll os p w).1.Tended := by
  induction os using List.reverseRecOn with
  | nil => exact hp
  | append_singleton os o ih =>
    rw [obeyAll_concat]
    exact ih.obey o _

/-- A server stays the current one when it no longer runs only if it was stopped directly. -/
theorem idles_iff_left (htended : p.Tended) (hcurrent : p.current = none) {w : W}
    {os : List (Command L)} : (obeyAll os p w).1.Idles n ↔ Left p w os n := by
  constructor
  · intro h
    induction os using List.reverseRecOn with
    | nil =>
      have hnone : (obeyAll [] p w).1.current = none := hcurrent
      rw [Idles, hnone] at h
      exact absurd h.1 (by simp)
    | append_singleton os o ih =>
      have hstep := h
      rw [obeyAll_concat, idles_obey_iff (tended_obeyAll htended w os)] at hstep
      rcases hstep with ⟨hidles, hstop, hstart⟩ | ⟨rfl, hcurrent, hruns, -⟩
      · exact .kept (ih hidles) hstop hstart
      · exact .halted hcurrent hruns h.2
  · intro h
    induction h with
    | @halted os n hcurrent hruns hstops =>
      rw [obeyAll_concat] at hstops ⊢
      exact (idles_obey_iff (tended_obeyAll htended w os) _ _).mpr
        (.inr ⟨rfl, hcurrent, hruns, hstops⟩)
    | @kept os n o _ hstop hstart ih =>
      rw [obeyAll_concat]
      exact (idles_obey_iff (tended_obeyAll htended w os) _ _).mpr (.inl ⟨ih, hstop, hstart⟩)

theorem Left.halt_mem {w : W} {os : List (Command L)} (h : Left p w os n) : .halt n ∈ os := by
  induction h with
  | halted => exact List.mem_append_right _ List.mem_cons_self
  | kept _ _ _ ih => exact List.mem_append_left _ ih

/-- Whatever a host was told before, a start that declines leaves it as it was, without a server that runs.
A current server is there after it exactly if it was stopped directly before. -/
theorem declined_start (hservers : p.servers = #[]) (hcurrent : p.current = none) (w : W)
    (os : List (Command L)) (base : Settings.Base) (overrides : Datum) (c : Option (Context L))
    (hdeclined : ((obeyAll os p w).1.start base overrides c (obeyAll os p w).2).1 = .ok false) :
    ∃ p' w', (obeyAll os p w).1.start base overrides c (obeyAll os p w).2 = (.ok false, p', w') ∧
      p' = (obeyAll os p w).1 ∧ p'.isRunning = false ∧
      (∀ n, p'.current = some n ↔ Left p w os n) ∧
      ((∀ n, .halt n ∉ os) → p'.current = none) := by
  rcases (obeyAll os p w).1.start_cases base overrides c (obeyAll os p w).2 with
    ⟨hok, -⟩ | ⟨-, hidle, hsame⟩
  · rw [hok] at hdeclined
    simp at hdeclined
  · have hleft : ∀ n, (obeyAll os p w).1.current = some n ↔ Left p w os n := by
      intro n
      rw [← idles_iff_left (.nil hservers) hcurrent, Idles, hidle, and_iff_left rfl]
    refine ⟨_, _, Prod.ext hdeclined rfl, hsame, by rw [hsame, hidle], by rwa [hsame], ?_⟩
    intro hnever
    rw [hsame, Option.eq_none_iff_forall_ne_some]
    intro n hn
    exact hnever n ((hleft n).mp hn).halt_mem

def isDeclined : Except StartFailure Bool → Bool
  | .ok started => !started
  | .error _ => false

theorem eq_of_isDeclined {a : Except StartFailure Bool} (h : isDeclined a = true) :
    a = .ok false := by
  rcases a with _ | _ | _
  · contradiction
  · rfl
  · contradiction

/-- A server is started, and then stopped directly. -/
def halted : List (Command scripts) := [.start .initial (.dict []) none, .halt 0]

/-- A network in which the address is in use when a second socket is to be bound. -/
def occupied : Loopback :=
  Loopback.initial.plan ⟨.bind, ⟨.systemError, [.int 98, .text "Address already in use"]⟩, 1, 1⟩

theorem halted_declined : ∃ p' w',
    (obeyAll halted (initial : Host scripts Nat) occupied).1.start .initial (.dict []) none
      (obeyAll halted (initial : Host scripts Nat) occupied).2 = (.ok false, p', w') ∧
    p'.isRunning = false ∧ p'.current = some 0 ∧ Left (initial : Host scripts Nat) occupied halted 0 := by
  have hdeclined : isDeclined
      ((obeyAll halted (initial : Host scripts Nat) occupied).1.start .initial (.dict []) none
        (obeyAll halted (initial : Host scripts Nat) occupied).2).1 = true := by
    decide +kernel
  obtain ⟨p', w', hstart, hsame, hidle, hleft, -⟩ := declined_start
    (p := (initial : Host scripts Nat)) rfl rfl occupied halted .initial (.dict []) none
    (eq_of_isDeclined hdeclined)
  have hcurrent : p'.current = some 0 := by
    rw [hsame]
    decide +kernel
  exact ⟨p', w', hstart, hidle, hcurrent, (hleft 0).mp hcurrent⟩

/-- The start fails, and the server that was stopped is still the current one. -/
theorem halted_remains :
    (match obeyAll halted (initial : Host scripts Nat) occupied with
    | (p, w) => match p.start .initial (.dict []) none w with
      | (a, p, _) => isDeclined a && p.current == some 0) = true := by
  decide +kernel

end LiveConsole.Net.Host
