import LiveConsole.Cadence
import Mathlib.Data.List.Chain

/-!
# Rounds of a pacer

Surroundings can write down every call of a pacer, apart from which they are the same surroundings. What a
run writes down falls into rounds, each of a tick and of at most one sleep after it. All that a run can
do is derived from the ways in which such rounds can follow one another.
-/

namespace LiveConsole.Cadence
set_option autoImplicit false

variable {σ τ ε : Type}

/-- A call of the surroundings, with the times before and after it. -/
structure Call (τ ε : Type) where
  began : τ
  ended : τ
  reaction : Reaction ε

inductive Beat (τ ε : Type) where
  | tick (call : Call τ ε)
  | sleep (length : τ) (call : Call τ ε)

/-- The same surroundings, with the calls written down. -/
def Host.recorded (host : Host σ τ ε) : Host (σ × List (Beat τ ε)) τ ε where
  clock x := host.clock x.1
  tick x :=
    let (r, w) := host.tick x.1
    (r, w, x.2 ++ [.tick ⟨host.clock x.1, host.clock w, r⟩])
  sleep t x :=
    let (r, w) := host.sleep t x.1
    (r, w, x.2 ++ [.sleep t ⟨host.clock x.1, host.clock w, r⟩])

namespace Host

variable {host : Host σ τ ε} {w w' : σ} {r : Reaction ε}

theorem recorded_tick (h : host.tick w = (r, w')) (log : List (Beat τ ε)) :
    host.recorded.tick (w, log) = (r, w', log ++ [.tick ⟨host.clock w, host.clock w', r⟩]) := by
  simp [recorded, h]

theorem recorded_sleep {t : τ} (h : host.sleep t w = (r, w')) (log : List (Beat τ ε)) :
    host.recorded.sleep t (w, log) =
      (r, w', log ++ [.sleep t ⟨host.clock w, host.clock w', r⟩]) := by
  simp [recorded, h]

end Host

/-- A tick, and the sleep after it if there was one. -/
structure Round (τ ε : Type) where
  tick : Call τ ε
  sleep : Option (τ × Call τ ε)

namespace Round

def beats (r : Round τ ε) : List (Beat τ ε) :=
  .tick r.tick :: (r.sleep.map fun s => .sleep s.1 s.2).toList

/-- Whether the pacer was asked to stop in a round. -/
def stops (r : Round τ ε) : Bool := r.tick.reaction.stop || r.sleep.any fun s => s.2.reaction.stop

def failure (r : Round τ ε) : Option ε :=
  r.tick.reaction.failure.or (r.sleep.bind fun s => s.2.reaction.failure)

/-- When a round was over. -/
def ended (r : Round τ ε) : τ := (r.sleep.map fun s => s.2.ended).getD r.tick.ended

def cost [Sub τ] (r : Round τ ε) : τ := r.tick.ended - r.tick.began

end Round

namespace Pacer

open Round (beats)

section Paced

variable [Sub τ] [LT τ] [OfNat τ 0]

/-- The ways in which rounds can go: how many there may be, how many ticks have run, whether a stop was
asked for, the time, the rounds that come, how they end, and how many of the ticks are counted. -/
inductive Paced (limit : Option Int) (interval : τ) :
    Nat → Nat → Bool → τ → List (Round τ ε) → Ending ε → Nat → Prop where
  | spent {ran : Nat} {asked : Bool} {now : τ} :
      Paced limit interval 0 ran asked now [] .unfinished 0
  | enough {more ran : Nat} {asked : Bool} {now : τ} (h : (asked || reached limit ran) = true) :
      Paced limit interval (more + 1) ran asked now [] (.finished ran) 0
  /-- The tick fails. -/
  | failed {more ran : Nat} {c : Call τ ε} {e : ε} (h : reached limit ran = false)
      (he : c.reaction.failure = some e) :
      Paced limit interval (more + 1) ran false c.began [⟨c, none⟩] (.failed e) 0
  | last {more ran : Nat} {c : Call τ ε} (h : reached limit ran = false)
      (he : c.reaction.failure = none)
      (hlast : (c.reaction.stop || reached limit (ran + 1)) = true) :
      Paced limit interval (more + 1) ran false c.began [⟨c, none⟩] (.finished (ran + 1)) 1
  /-- The sleep fails. -/
  | disturbed {more ran : Nat} {c s : Call τ ε} {e : ε} (h : reached limit ran = false)
      (he : c.reaction.failure = none)
      (hlast : (c.reaction.stop || reached limit (ran + 1)) = false)
      (hlength : 0 < interval - (c.ended - c.began)) (hs : s.began = c.ended)
      (hes : s.reaction.failure = some e) :
      Paced limit interval (more + 1) ran false c.began
        [⟨c, some (interval - (c.ended - c.began), s)⟩] (.failed e) 1
  | slept {more ran counted : Nat} {c s : Call τ ε} {rs : List (Round τ ε)} {ending : Ending ε}
      (h : reached limit ran = false) (he : c.reaction.failure = none)
      (hlast : (c.reaction.stop || reached limit (ran + 1)) = false)
      (hlength : 0 < interval - (c.ended - c.began)) (hs : s.began = c.ended)
      (hes : s.reaction.failure = none)
      (hmore : Paced limit interval more (ran + 1) s.reaction.stop s.ended rs ending counted) :
      Paced limit interval (more + 1) ran false c.began
        (⟨c, some (interval - (c.ended - c.began), s)⟩ :: rs) ending (counted + 1)
  | onward {more ran counted : Nat} {c : Call τ ε} {rs : List (Round τ ε)} {ending : Ending ε}
      (h : reached limit ran = false) (he : c.reaction.failure = none)
      (hlast : (c.reaction.stop || reached limit (ran + 1)) = false)
      (hlength : ¬0 < interval - (c.ended - c.began))
      (hmore : Paced limit interval more (ran + 1) false c.ended rs ending counted) :
      Paced limit interval (more + 1) ran false c.began (⟨c, none⟩ :: rs) ending (counted + 1)

/-- A round begins when the one before it is over, which it is without a sleep only when nothing is left
of the interval. -/
structure Follows (interval : τ) (r next : Round τ ε) : Prop where
  began : next.tick.began = r.ended
  sleepless : r.sleep = none → ¬0 < interval - r.cost

/-- A sleep takes what is left of the interval. -/
structure Rests (interval : τ) (r : Round τ ε) (s : τ × Call τ ε) : Prop where
  length : s.1 = interval - r.cost
  pos : 0 < s.1
  began : s.2.began = r.tick.ended

namespace Paced

variable {limit : Option Int} {interval now : τ} {bound ran counted : Nat} {asked : Bool}
  {rs : List (Round τ ε)} {ending : Ending ε}

theorem began (h : Paced limit interval bound ran asked now rs ending counted) :
    ∀ r ∈ rs.head?, r.tick.began = now := by
  cases h with
  | spent | enough => simp
  | failed | last | disturbed | slept | onward => simp

theorem isChain (h : Paced limit interval bound ran asked now rs ending counted) :
    rs.IsChain (Follows interval) := by
  induction h with
  | spent | enough => exact .nil
  | failed | last | disturbed => exact .singleton _
  | slept _ _ _ _ _ _ hmore ih =>
    refine List.isChain_cons.mpr ⟨fun next hnext => ⟨hmore.began next hnext, ?_⟩, ih⟩
    intro hnone
    contradiction
  | onward _ _ _ hlength hmore ih =>
    exact List.isChain_cons.mpr
      ⟨fun next hnext => ⟨hmore.began next hnext, fun _ => hlength⟩, ih⟩

theorem rests (h : Paced limit interval bound ran asked now rs ending counted) :
    ∀ r ∈ rs, ∀ s ∈ r.sleep, Rests interval r s := by
  induction h with
  | spent | enough | failed | last => simp
  | disturbed _ _ _ hlength hs => simpa using ⟨rfl, hlength, hs⟩
  | slept _ _ _ hlength hs _ _ ih =>
    refine List.forall_mem_cons.mpr ⟨?_, ih⟩
    simpa using ⟨rfl, hlength, hs⟩
  | onward _ _ _ _ _ ih => exact List.forall_mem_cons.mpr ⟨by simp, ih⟩

end Paced

end Paced

variable [Sub τ] [LT τ] [DecidableLT τ] [OfNat τ 0]

/-- The rounds that a run goes through and writes down, and what comes of it. -/
structure Goes (host : Host σ τ ε) (limit : Option Int) (bound ran : Nat) (p : Pacer τ) (w : σ)
    (rs : List (Round τ ε)) (counted : Nat) (ending : Ending ε) (p' : Pacer τ) (w' : σ) : Prop where
  outcome : rounds host limit bound ran p w = (ending, p', w')
  recorded : ∀ log, rounds host.recorded limit bound ran p (w, log) =
    (ending, p', w', log ++ rs.flatMap beats)
  /-- A run that has ended does not depend on how many rounds it could have had. -/
  settled : ending ≠ .unfinished → ∀ extra,
    rounds host limit (bound + extra) ran p w = (ending, p', w')
  paced : Paced limit p.interval bound ran p.stopped (host.clock w) rs ending counted
  interval : p'.interval = p.interval
  ticks : p'.ticks = p.ticks + counted

section Cases

variable {host : Host σ τ ε} {limit : Option Int} {more ran ticks : Nat} {interval : τ}
  {w w' w'' : σ} {r s : Reaction ε} {e : ε}

theorem goes_enough {p : Pacer τ} (h : (p.stopped || reached limit ran) = true) :
    Goes host limit (more + 1) ran p w [] 0 (.finished ran) p w := by
  have heq : ∀ {more : Nat}, rounds host limit (more + 1) ran p w = (.finished ran, p, w) := by
    simp [rounds, h]
  refine ⟨heq, fun log => ?_, fun _ extra => ?_, .enough h, rfl, rfl⟩
  · simp [rounds, h]
  · rw [Nat.add_right_comm]
    exact heq

theorem rounds_failed (h : reached limit ran = false) (ht : host.tick w = (r, w'))
    (he : r.failure = some e) : rounds host limit (more + 1) ran ⟨interval, ticks, false⟩ w =
      (.failed e, ⟨interval, ticks, r.stop⟩, w') := by
  simp [rounds, step, absorb, h, ht, he]

theorem goes_failed (h : reached limit ran = false) (ht : host.tick w = (r, w'))
    (he : r.failure = some e) : Goes host limit (more + 1) ran ⟨interval, ticks, false⟩ w
      [⟨⟨host.clock w, host.clock w', r⟩, none⟩] 0 (.failed e) ⟨interval, ticks, r.stop⟩ w' := by
  refine ⟨rounds_failed h ht he, fun log => rounds_failed h (Host.recorded_tick ht log) he,
    fun _ extra => ?_, .failed (c := ⟨host.clock w, host.clock w', r⟩) h he, rfl, rfl⟩
  rw [Nat.add_right_comm]
  exact rounds_failed h ht he

theorem rounds_last (h : reached limit ran = false) (ht : host.tick w = (r, w'))
    (he : r.failure = none) (hlast : (r.stop || reached limit (ran + 1)) = true) :
    rounds host limit (more + 1) ran ⟨interval, ticks, false⟩ w =
      (.finished (ran + 1), ⟨interval, ticks + 1, r.stop⟩, w') := by
  simp [rounds, step, absorb, h, ht, he, hlast]

theorem goes_last (h : reached limit ran = false) (ht : host.tick w = (r, w'))
    (he : r.failure = none) (hlast : (r.stop || reached limit (ran + 1)) = true) :
    Goes host limit (more + 1) ran ⟨interval, ticks, false⟩ w
      [⟨⟨host.clock w, host.clock w', r⟩, none⟩] 1 (.finished (ran + 1))
      ⟨interval, ticks + 1, r.stop⟩ w' := by
  refine ⟨rounds_last h ht he hlast, fun log => rounds_last h (Host.recorded_tick ht log) he hlast,
    fun _ extra => ?_, .last (c := ⟨host.clock w, host.clock w', r⟩) h he hlast, rfl, rfl⟩
  rw [Nat.add_right_comm]
  exact rounds_last h ht he hlast

variable (h : reached limit ran = false) (ht : host.tick w = (r, w')) (he : r.failure = none)
  (hlast : (r.stop || reached limit (ran + 1)) = false)
include h ht he hlast

theorem rounds_disturbed (hlength : 0 < interval - (host.clock w' - host.clock w))
    (hs : host.sleep (interval - (host.clock w' - host.clock w)) w' = (s, w''))
    (hes : s.failure = some e) : rounds host limit (more + 1) ran ⟨interval, ticks, false⟩ w =
      (.failed e, ⟨interval, ticks + 1, s.stop⟩, w'') := by
  obtain ⟨hstop, hnext⟩ := Bool.or_eq_false_iff.mp hlast
  simp [rounds, step, absorb, h, ht, he, hstop, hnext, hlength, hs, hes]

theorem goes_disturbed (hlength : 0 < interval - (host.clock w' - host.clock w))
    (hs : host.sleep (interval - (host.clock w' - host.clock w)) w' = (s, w''))
    (hes : s.failure = some e) : Goes host limit (more + 1) ran ⟨interval, ticks, false⟩ w
      [⟨⟨host.clock w, host.clock w', r⟩, some (interval - (host.clock w' - host.clock w),
        ⟨host.clock w', host.clock w'', s⟩)⟩] 1 (.failed e) ⟨interval, ticks + 1, s.stop⟩ w'' := by
  refine ⟨rounds_disturbed h ht he hlast hlength hs hes, fun log => ?_, fun _ extra => ?_,
    .disturbed (c := ⟨host.clock w, host.clock w', r⟩) (s := ⟨host.clock w', host.clock w'', s⟩)
      h he hlast hlength rfl hes, rfl, rfl⟩
  · rw [rounds_disturbed h (Host.recorded_tick ht log) he hlast hlength
      (Host.recorded_sleep hs _) hes]
    simp [beats]
  · rw [Nat.add_right_comm]
    exact rounds_disturbed h ht he hlast hlength hs hes

theorem rounds_slept (hlength : 0 < interval - (host.clock w' - host.clock w))
    (hs : host.sleep (interval - (host.clock w' - host.clock w)) w' = (s, w''))
    (hes : s.failure = none) : rounds host limit (more + 1) ran ⟨interval, ticks, false⟩ w =
      rounds host limit more (ran + 1) ⟨interval, ticks + 1, s.stop⟩ w'' := by
  obtain ⟨hstop, hnext⟩ := Bool.or_eq_false_iff.mp hlast
  simp [rounds, step, absorb, h, ht, he, hstop, hnext, hlength, hs, hes]

theorem rounds_onward (hlength : ¬0 < interval - (host.clock w' - host.clock w)) :
    rounds host limit (more + 1) ran ⟨interval, ticks, false⟩ w =
      rounds host limit more (ran + 1) ⟨interval, ticks + 1, false⟩ w' := by
  obtain ⟨hstop, hnext⟩ := Bool.or_eq_false_iff.mp hlast
  simp [rounds, step, absorb, h, ht, he, hstop, hnext, hlength]

variable {rs : List (Round τ ε)} {counted : Nat} {ending : Ending ε} {p' : Pacer τ} {w₁ : σ}

theorem Goes.slept (hlength : 0 < interval - (host.clock w' - host.clock w))
    (hs : host.sleep (interval - (host.clock w' - host.clock w)) w' = (s, w''))
    (hes : s.failure = none)
    (hmore : Goes host limit more (ran + 1) ⟨interval, ticks + 1, s.stop⟩ w'' rs counted ending
      p' w₁) : Goes host limit (more + 1) ran ⟨interval, ticks, false⟩ w
      (⟨⟨host.clock w, host.clock w', r⟩, some (interval - (host.clock w' - host.clock w),
        ⟨host.clock w', host.clock w'', s⟩)⟩ :: rs) (counted + 1) ending p' w₁ := by
  refine ⟨?_, fun log => ?_, fun hended extra => ?_, ?_, hmore.interval, ?_⟩
  · rw [rounds_slept h ht he hlast hlength hs hes, hmore.outcome]
  · rw [rounds_slept h (Host.recorded_tick ht log) he hlast hlength (Host.recorded_sleep hs _) hes,
      hmore.recorded]
    simp [beats]
  · rw [Nat.add_right_comm, rounds_slept h ht he hlast hlength hs hes, hmore.settled hended]
  · exact .slept (c := ⟨host.clock w, host.clock w', r⟩) (s := ⟨host.clock w', host.clock w'', s⟩)
      h he hlast hlength rfl hes hmore.paced
  · rw [hmore.ticks]
    exact Nat.add_right_comm ticks 1 counted

theorem Goes.onward (hlength : ¬0 < interval - (host.clock w' - host.clock w))
    (hmore : Goes host limit more (ran + 1) ⟨interval, ticks + 1, false⟩ w' rs counted ending
      p' w₁) : Goes host limit (more + 1) ran ⟨interval, ticks, false⟩ w
      (⟨⟨host.clock w, host.clock w', r⟩, none⟩ :: rs) (counted + 1) ending p' w₁ := by
  refine ⟨?_, fun log => ?_, fun hended extra => ?_, ?_, hmore.interval, ?_⟩
  · rw [rounds_onward h ht he hlast hlength, hmore.outcome]
  · rw [rounds_onward h (Host.recorded_tick ht log) he hlast hlength, hmore.recorded]
    simp [beats]
  · rw [Nat.add_right_comm, rounds_onward h ht he hlast hlength, hmore.settled hended]
  · exact .onward (c := ⟨host.clock w, host.clock w', r⟩) h he hlast hlength hmore.paced
  · rw [hmore.ticks]
    exact Nat.add_right_comm ticks 1 counted

end Cases

theorem exists_goes (host : Host σ τ ε) (limit : Option Int) (bound ran : Nat) (p : Pacer τ)
    (w : σ) : ∃ rs counted ending p' w', Goes host limit bound ran p w rs counted ending p' w' := by
  induction bound generalizing ran p w with
  | zero =>
    exact ⟨[], 0, .unfinished, p, w, rfl, by simp [rounds], fun h => absurd rfl h, .spent, rfl, rfl⟩
  | succ more ih =>
    obtain ⟨interval, ticks, asked⟩ := p
    cases hover : asked || reached limit ran with
    | true => exact ⟨_, _, _, _, _, goes_enough hover⟩
    | false =>
      obtain ⟨rfl, h⟩ := Bool.or_eq_false_iff.mp hover
      rcases ht : host.tick w with ⟨r, w'⟩
      cases he : r.failure with
      | some e => exact ⟨_, _, _, _, _, goes_failed h ht he⟩
      | none =>
        cases hlast : r.stop || reached limit (ran + 1) with
        | true => exact ⟨_, _, _, _, _, goes_last h ht he hlast⟩
        | false =>
          by_cases hlength : 0 < interval - (host.clock w' - host.clock w)
          · rcases hs : host.sleep (interval - (host.clock w' - host.clock w)) w' with ⟨s, w''⟩
            cases hes : s.failure with
            | some e => exact ⟨_, _, _, _, _, goes_disturbed h ht he hlast hlength hs hes⟩
            | none =>
              obtain ⟨_, _, _, _, _, hmore⟩ := ih (ran + 1) ⟨interval, ticks + 1, s.stop⟩ w''
              exact ⟨_, _, _, _, _, hmore.slept h ht he hlast hlength hs hes⟩
          · obtain ⟨_, _, _, _, _, hmore⟩ := ih (ran + 1) ⟨interval, ticks + 1, false⟩ w'
            exact ⟨_, _, _, _, _, hmore.onward h ht he hlast hlength⟩

end Pacer

end LiveConsole.Cadence
