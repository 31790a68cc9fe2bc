import LiveConsole.Proofs.Cadence.Rounds
import Mathlib.Order.Bounds.Basic

/-!
# When a pacer stops

A run ends after the least number of ticks after which it has to: those that the limit allows, or those
until it was asked to stop. It ends earlier only by a failure.
-/

namespace LiveConsole.Cadence
set_option autoImplicit false

variable {σ τ ε : Type}

namespace Pacer

/-- Whether a run has to end after a number of ticks: the limit is reached, or a stop was asked for in
the last of them or in the sleep after it. -/
def Ends (limit : Option Int) (rs : List (Round τ ε)) (n : Nat) : Prop :=
  reached limit n = true ∨ ∃ m r, rs[m]? = some r ∧ n = m + 1 ∧ r.stops = true

/-- How a round fails, and how many ticks are counted with it: a tick that fails is not. -/
inductive Fails (r : Round τ ε) (e : ε) (before : Nat) : Nat → Prop where
  | tick (h : r.tick.reaction.failure = some e) : Fails r e before before
  | sleep {s : τ × Call τ ε} (ht : r.tick.reaction.failure = none) (hs : r.sleep = some s)
      (h : s.2.reaction.failure = some e) : Fails r e before (before + 1)

theorem Fails.succ {r : Round τ ε} {e : ε} {before counted : Nat} (h : Fails r e before counted) :
    Fails r e (before + 1) (counted + 1) := by
  cases h with
  | tick h => exact .tick h
  | sleep ht hs h => exact .sleep ht hs h

/-- What a run has to be, by its rounds. -/
structure Stops (limit : Option Int) (bound : Nat) (rs : List (Round τ ε)) (ending : Ending ε)
    (counted : Nat) : Prop where
  /-- After fewer ticks it did not have to end. -/
  least : ∀ n < rs.length, ¬Ends limit rs n
  /-- Where it has to end, it ends, if it may have rounds enough. -/
  ends : ∀ n < bound, Ends limit rs n → ending ≠ .unfinished
  finished : ∀ n, ending = .finished n →
    IsLeast {n | Ends limit rs n} n ∧ rs.length = n ∧ counted = n ∧ ∀ r ∈ rs, r.failure = none
  /-- A tick that fails is the last one. It is not counted, and no sleep follows it. -/
  raised : ∀ m r e, rs[m]? = some r → r.tick.reaction.failure = some e →
    ending = .failed e ∧ rs.length = m + 1 ∧ counted = m ∧ r.sleep = none
  /-- Only the last round fails. -/
  failed : ∀ e, ending = .failed e → ∃ before r, rs = before ++ [r] ∧
    (∀ b ∈ before, b.failure = none) ∧ Fails r e before.length counted
  unfinished : ending = .unfinished →
    rs.length = bound ∧ counted = bound ∧ ∀ r ∈ rs, r.failure = none
  /-- No sleep follows a tick that fails, in which a stop was asked for or that reaches the limit. -/
  sleepless : ∀ m r, rs[m]? = some r →
    r.tick.reaction.failure ≠ none ∨ r.tick.reaction.stop = true ∨ reached limit (m + 1) = true →
    r.sleep = none

namespace Paced

theorem not_last {limit : Option Int} {ran : Nat} {c : Call τ ε} (he : c.reaction.failure = none)
    (hlast : (c.reaction.stop || reached limit (ran + 1)) = false) :
    ¬(c.reaction.failure ≠ none ∨ c.reaction.stop = true ∨ reached limit (ran + 1) = true) := by
  obtain ⟨hstop, hnext⟩ := Bool.or_eq_false_iff.mp hlast
  simp [he, hstop, hnext]

variable [Sub τ] [LT τ] [OfNat τ 0]
variable {limit : Option Int} {interval now : τ} {bound ran counted m : Nat} {asked : Bool}
  {rs : List (Round τ ε)} {ending : Ending ε} {r : Round τ ε}

theorem asked_eq_false (h : Paced limit interval bound ran asked now rs ending counted)
    (hrs : rs ≠ []) : asked = false := by
  cases h with
  | spent | enough => contradiction
  | failed | last | disturbed | slept | onward => rfl

/-- A round begins only below the limit, and in the last alone a stop can be asked for. -/
theorem going (h : Paced limit interval bound ran asked now rs ending counted)
    (hr : rs[m]? = some r) :
    reached limit (ran + m) = false ∧ (m + 1 < rs.length → r.stops = false) := by
  induction h generalizing m with
  | spent | enough => simp at hr
  | failed h | last h | disturbed h =>
    cases m with
    | zero => exact ⟨h, fun hlt => absurd hlt (Nat.lt_irrefl 1)⟩
    | succ m => simp at hr
  | @slept more ran counted c s rs ending h he hlast hlength hs hes hmore ih =>
    obtain ⟨hstop, _⟩ := Bool.or_eq_false_iff.mp hlast
    cases m with
    | zero =>
      obtain rfl := Option.some.inj hr
      refine ⟨h, fun hlt => ?_⟩
      have hasked := hmore.asked_eq_false fun hnil => by simp [hnil] at hlt
      simp [Round.stops, hstop, hasked]
    | succ m =>
      rw [← Nat.succ_add_eq_add_succ]
      exact ⟨(ih hr).1, fun hlt => (ih hr).2 (Nat.lt_of_succ_lt_succ hlt)⟩
  | @onward more ran counted c rs ending h he hlast hlength hmore ih =>
    obtain ⟨hstop, _⟩ := Bool.or_eq_false_iff.mp hlast
    cases m with
    | zero =>
      obtain rfl := Option.some.inj hr
      refine ⟨h, fun _ => ?_⟩
      simp [Round.stops, hstop]
    | succ m =>
      rw [← Nat.succ_add_eq_add_succ]
      exact ⟨(ih hr).1, fun hlt => (ih hr).2 (Nat.lt_of_succ_lt_succ hlt)⟩

theorem sleepless (h : Paced limit interval bound ran asked now rs ending counted)
    (hr : rs[m]? = some r) (hlast : r.tick.reaction.failure ≠ none ∨
      r.tick.reaction.stop = true ∨ reached limit (ran + (m + 1)) = true) : r.sleep = none := by
  induction h generalizing m with
  | spent | enough => simp at hr
  | failed | last =>
    cases m with
    | zero =>
      obtain rfl := Option.some.inj hr
      rfl
    | succ m => simp at hr
  | disturbed h he hl =>
    cases m with
    | zero =>
      obtain rfl := Option.some.inj hr
      exact absurd hlast (not_last he hl)
    | succ m => simp at hr
  | @slept more ran counted c s rs ending h he hl hlength hs hes hmore ih =>
    cases m with
    | zero =>
      obtain rfl := Option.some.inj hr
      exact absurd hlast (not_last he hl)
    | succ m =>
      rw [← Nat.succ_add_eq_add_succ] at hlast
      exact ih hr hlast
  | @onward more ran counted c rs ending h he hl hlength hmore ih =>
    cases m with
    | zero =>
      obtain rfl := Option.some.inj hr
      rfl
    | succ m =>
      rw [← Nat.succ_add_eq_add_succ] at hlast
      exact ih hr hlast

theorem of_finished (h : Paced limit interval bound ran asked now rs ending counted) {n : Nat}
    (hn : ending = .finished n) : n = ran + rs.length ∧ counted = rs.length ∧
      (∀ r ∈ rs, r.failure = none) ∧
      (reached limit n = true ∨ (∃ m r, rs[m]? = some r ∧ rs.length = m + 1 ∧ r.stops = true) ∨
        rs = [] ∧ asked = true) := by
  induction h with
  | spent | failed | disturbed => contradiction
  | enough h =>
    obtain rfl := Ending.finished.inj hn
    rcases (Bool.or_eq_true _ _).mp h with hasked | hlimit
    · exact ⟨rfl, rfl, by simp, .inr (.inr ⟨rfl, hasked⟩)⟩
    · exact ⟨rfl, rfl, by simp, .inl hlimit⟩
  | last h he hlast =>
    obtain rfl := Ending.finished.inj hn
    refine ⟨rfl, rfl, by simp [Round.failure, he], ?_⟩
    rcases (Bool.or_eq_true _ _).mp hlast with hstop | hlimit
    · exact .inr (.inl ⟨0, _, rfl, rfl, by simp [Round.stops, hstop]⟩)
    · exact .inl hlimit
  | @slept more ran counted c s rs ending h he hlast hlength hs hes hmore ih =>
    obtain ⟨hcount, rfl, hcalm, hwhy⟩ := ih hn
    refine ⟨by rw [hcount, List.length_cons, Nat.add_assoc, Nat.add_comm 1], rfl,
      List.forall_mem_cons.mpr ⟨by simp [Round.failure, he, hes], hcalm⟩, ?_⟩
    rcases hwhy with hlimit | ⟨m, r, hr, hm, hstop⟩ | ⟨rfl, hasked⟩
    · exact .inl hlimit
    · exact .inr (.inl ⟨m + 1, r, hr, congrArg (· + 1) hm, hstop⟩)
    · exact .inr (.inl ⟨0, _, rfl, rfl, by simp [Round.stops, hasked]⟩)
  | @onward more ran counted c rs ending h he hlast hlength hmore ih =>
    obtain ⟨hcount, rfl, hcalm, hwhy⟩ := ih hn
    refine ⟨by rw [hcount, List.length_cons, Nat.add_assoc, Nat.add_comm 1], rfl,
      List.forall_mem_cons.mpr ⟨by simp [Round.failure, he], hcalm⟩, ?_⟩
    rcases hwhy with hlimit | ⟨m, r, hr, hm, hstop⟩ | ⟨rfl, hasked⟩
    · exact .inl hlimit
    · exact .inr (.inl ⟨m + 1, r, hr, congrArg (· + 1) hm, hstop⟩)
    · contradiction

theorem of_unfinished (h : Paced limit interval bound ran asked now rs ending counted)
    (hu : ending = .unfinished) :
    rs.length = bound ∧ counted = bound ∧ ∀ r ∈ rs, r.failure = none := by
  induction h with
  | spent => simp
  | enough | failed | last | disturbed => contradiction
  | slept h he hlast hlength hs hes hmore ih =>
    obtain ⟨hcount, rfl, hcalm⟩ := ih hu
    exact ⟨congrArg (· + 1) hcount, rfl,
      List.forall_mem_cons.mpr ⟨by simp [Round.failure, he, hes], hcalm⟩⟩
  | onward h he hlast hlength hmore ih =>
    obtain ⟨hcount, rfl, hcalm⟩ := ih hu
    exact ⟨congrArg (· + 1) hcount, rfl,
      List.forall_mem_cons.mpr ⟨by simp [Round.failure, he], hcalm⟩⟩

theorem of_failed (h : Paced limit interval bound ran asked now rs ending counted) {e : ε}
    (he : ending = .failed e) : ∃ before r, rs = before ++ [r] ∧
      (∀ b ∈ before, b.failure = none) ∧ Fails r e before.length counted := by
  induction h with
  | spent | enough | last => contradiction
  | failed h hc =>
    obtain rfl := Ending.failed.inj he
    exact ⟨[], _, rfl, by simp, .tick hc⟩
  | disturbed h hc hlast hlength hs hes =>
    obtain rfl := Ending.failed.inj he
    exact ⟨[], _, rfl, by simp, .sleep hc rfl hes⟩
  | @slept more ran counted c s rs ending h hc hlast hlength hs hes hmore ih =>
    obtain ⟨before, r, rfl, hcalm, hfails⟩ := ih he
    exact ⟨_ :: before, r, rfl,
      List.forall_mem_cons.mpr ⟨by simp [Round.failure, hc, hes], hcalm⟩, hfails.succ⟩
  | @onward more ran counted c rs ending h hc hlast hlength hmore ih =>
    obtain ⟨before, r, rfl, hcalm, hfails⟩ := ih he
    exact ⟨_ :: before, r, rfl,
      List.forall_mem_cons.mpr ⟨by simp [Round.failure, hc], hcalm⟩, hfails.succ⟩

theorem raised (h : Paced limit interval bound ran asked now rs ending counted) {e : ε}
    (hr : rs[m]? = some r) (he : r.tick.reaction.failure = some e) :
    ending = .failed e ∧ rs.length = m + 1 ∧ counted = m ∧ r.sleep = none := by
  have hfailure : r.failure = some e := by simp [Round.failure, he]
  have hsleep : r.sleep = none := h.sleepless hr (.inl (he ▸ Option.some_ne_none e))
  cases hending : ending with
  | finished n =>
    have hcalm := (h.of_finished hending).2.2.1 r (List.mem_of_getElem? hr)
    rw [hfailure] at hcalm
    contradiction
  | unfinished =>
    have hcalm := (h.of_unfinished hending).2.2 r (List.mem_of_getElem? hr)
    rw [hfailure] at hcalm
    contradiction
  | failed e' =>
    obtain ⟨before, last, rfl, hcalm, hfails⟩ := h.of_failed hending
    rcases Nat.lt_or_ge m before.length with hm | hm
    · rw [List.getElem?_append_left hm] at hr
      rw [hcalm r (List.mem_of_getElem? hr)] at hfailure
      contradiction
    · rw [List.getElem?_append_right hm, List.getElem?_singleton] at hr
      split at hr
      next hzero =>
        obtain rfl := Option.some.inj hr
        have hm' : m = before.length := by omega
        cases hfails with
        | tick h' =>
          obtain rfl := Option.some.inj (he.symm.trans h')
          exact ⟨rfl, by rw [hm', List.length_append, List.length_singleton], hm'.symm, hsleep⟩
        | sleep ht =>
          rw [he] at ht
          contradiction
      next => contradiction

end Paced

theorem Paced.stops [Sub τ] [LT τ] [OfNat τ 0] {limit : Option Int} {interval now : τ}
    {bound counted : Nat} {rs : List (Round τ ε)} {ending : Ending ε}
    (h : Paced limit interval bound 0 false now rs ending counted) :
    Stops limit bound rs ending counted := by
  have hleast : ∀ n < rs.length, ¬Ends limit rs n := by
    rintro n hn (hlimit | ⟨m, r, hr, rfl, hstop⟩)
    · have hgoing := h.going (List.getElem?_eq_getElem hn)
      rw [Nat.zero_add, hlimit] at hgoing
      exact Bool.noConfusion hgoing.1
    · rw [(h.going hr).2 hn] at hstop
      contradiction
  refine ⟨hleast, ?_, ?_, fun m r e => h.raised, fun e => h.of_failed, h.of_unfinished, ?_⟩
  · intro n hn hends hu
    rw [← (h.of_unfinished hu).1] at hn
    exact hleast n hn hends
  · intro n hn
    obtain ⟨hcount, hcounted, hcalm, hwhy⟩ := h.of_finished hn
    rw [Nat.zero_add] at hcount
    refine ⟨⟨?_, ?_⟩, hcount.symm, hcounted.trans hcount.symm, hcalm⟩
    · rcases hwhy with hlimit | ⟨m, r, hr, hm, hstop⟩ | ⟨_, hasked⟩
      · exact .inl hlimit
      · exact .inr ⟨m, r, hr, hcount.trans hm, hstop⟩
      · contradiction
    · intro m hm
      exact Nat.le_of_not_lt fun hlt => hleast m (hcount ▸ hlt) hm
  · intro m r hr hlast
    rw [← Nat.zero_add (m + 1)] at hlast
    exact h.sleepless hr hlast

/-- A run of any pacer, whatever it has counted and been asked before, in any surroundings. -/
theorem run_stops [Sub τ] [LT τ] [DecidableLT τ] [OfNat τ 0] (host : Host σ τ ε)
    (limit : Option Int) (bound : Nat) (p : Pacer τ) (w : σ) :
    ∃ rs counted ending p' w', run host limit bound p w = (ending, p', w') ∧
      run host.recorded limit bound p (w, []) = (ending, p', w', rs.flatMap Round.beats) ∧
      Stops limit bound rs ending counted ∧ p'.ticks = p.ticks + counted ∧
      p'.interval = p.interval ∧
      (ending ≠ .unfinished → ∀ extra, run host limit (bound + extra) p w = (ending, p', w')) ∧
      run host limit bound p.stop w = run host limit bound p w := by
  obtain ⟨rs, counted, ending, p', w', h⟩ :=
    exists_goes host limit bound 0 { p with stopped := false } w
  exact ⟨rs, counted, ending, p', w', h.outcome, h.recorded [], h.paced.stops, h.ticks, h.interval,
    h.settled, rfl⟩

end Pacer

end LiveConsole.Cadence
