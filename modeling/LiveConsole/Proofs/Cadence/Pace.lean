import LiveConsole.Proofs.Cadence.Stopping
import Mathlib.Algebra.Order.Group.Basic
import Mathlib.Algebra.Order.Ring.Rat
import Mathlib.Tactic.Abel

/-!
# The pace of a pacer

In exact time a tick begins an interval after the one before it, and later only by what that tick took
beyond the interval or by what the sleep after it took beyond its length.
-/

namespace LiveConsole.Cadence
set_option autoImplicit false

variable {σ τ ε : Type}

/-- The clock does not go back in a tick, and a sleep takes as long as was asked for, if not longer. -/
def Beat.Forward [LE τ] [Add τ] : Beat τ ε → Prop
  | .tick c => c.began ≤ c.ended
  | .sleep length c => c.began + length ≤ c.ended

instance [LE τ] [Add τ] [DecidableLE τ] : DecidablePred (Beat.Forward (τ := τ) (ε := ε))
  | .tick c => inferInstanceAs (Decidable (c.began ≤ c.ended))
  | .sleep length c => inferInstanceAs (Decidable (c.began + length ≤ c.ended))

/-- When a tick that was written down began. -/
def Beat.tickBegan? : Beat τ ε → Option τ
  | .tick c => some c.began
  | .sleep _ _ => none

/-- The ticks that are written down in rounds are one for each. -/
theorem tickBegan?_beats (rs : List (Round τ ε)) :
    (rs.flatMap Round.beats).filterMap Beat.tickBegan? = rs.map fun r => r.tick.began := by
  induction rs with
  | nil => rfl
  | cons r rs ih =>
    have hround : r.beats.filterMap Beat.tickBegan? = [r.tick.began] := by
      cases hs : r.sleep <;> simp [Round.beats, Beat.tickBegan?, hs]
    rw [List.flatMap_cons, List.filterMap_append, ih, hround, List.map_cons, List.singleton_append]

/-- How much longer than asked a sleep took. -/
def oversleep [Sub τ] (s : τ × Call τ ε) : τ := s.2.ended - s.2.began - s.1

namespace Pacer

theorem Paced.length_le [Sub τ] [LT τ] [OfNat τ 0] {limit : Option Int} {interval now : τ}
    {bound ran counted : Nat} {asked : Bool} {rs : List (Round τ ε)} {ending : Ending ε}
    (h : Paced limit interval bound ran asked now rs ending counted) : rs.length ≤ bound := by
  induction h with
  | spent | enough => exact Nat.zero_le _
  | failed | last | disturbed => exact Nat.succ_le_succ (Nat.zero_le _)
  | slept _ _ _ _ _ _ _ ih | onward _ _ _ _ _ ih => exact Nat.succ_le_succ ih

theorem Ends.reached {limit : Option Int} {rs : List (Round τ ε)} {n : Nat}
    (hcalm : ∀ r ∈ rs, r.stops = false) (h : Ends limit rs n) : reached limit n = true := by
  rcases h with hlimit | ⟨m, r, hr, -, hstop⟩
  · exact hlimit
  · rw [hcalm r (List.mem_of_getElem? hr)] at hstop
    contradiction

/-- How many rounds a run has that nothing stops. -/
def allowed (limit : Option Int) (bound : Nat) : Nat :=
  limit.elim bound fun n => min bound n.toNat

theorem Stops.not_failed {limit : Option Int} {bound counted : Nat} {rs : List (Round τ ε)}
    {ending : Ending ε} (h : Stops limit bound rs ending counted)
    (hwell : ∀ r ∈ rs, r.failure = none) (e : ε) : ending ≠ .failed e := by
  intro hending
  obtain ⟨before, r, rfl, -, hfails⟩ := h.failed e hending
  have hnone := hwell r (by simp)
  cases hfails with
  | tick ht => simp [Round.failure, ht] at hnone
  | sleep ht hs he => simp [Round.failure, ht, hs, he] at hnone

/-- A run in which nothing asks for a stop or fails has all the rounds that it may have. -/
theorem Stops.length_eq {limit : Option Int} {bound counted : Nat} {rs : List (Round τ ε)}
    {ending : Ending ε} (h : Stops limit bound rs ending counted) (hbound : rs.length ≤ bound)
    (hcalm : ∀ r ∈ rs, r.stops = false) (hwell : ∀ r ∈ rs, r.failure = none) :
    rs.length = allowed limit bound := by
  cases hending : ending with
  | failed e => exact absurd hending (h.not_failed hwell e)
  | unfinished =>
    obtain ⟨hlength, -, -⟩ := h.unfinished hending
    cases limit with
    | none => exact hlength
    | some n =>
      have hle : bound ≤ n.toNat := by
        by_contra hlt
        refine h.ends n.toNat (Nat.lt_of_not_le hlt) (.inl ?_) hending
        simp [Pacer.reached]
      rw [hlength, allowed, Option.elim_some, Nat.min_eq_left hle]
  | finished k =>
    obtain ⟨⟨hends, hleast⟩, hlength, -, -⟩ := h.finished k hending
    have hreached := hends.reached hcalm
    cases limit with
    | none => simp [Pacer.reached] at hreached
    | some n =>
      have hk : n.toNat = k := by
        refine Nat.le_antisymm ?_ (hleast (.inl ?_))
        · simpa [Pacer.reached] using hreached
        · simp [Pacer.reached]
      rw [hlength] at hbound ⊢
      rw [allowed, Option.elim_some, hk, Nat.min_eq_right hbound]

/-- Every tick of a run in which nothing fails is counted. -/
theorem Stops.counted_eq {limit : Option Int} {bound counted : Nat} {rs : List (Round τ ε)}
    {ending : Ending ε} (h : Stops limit bound rs ending counted)
    (hwell : ∀ r ∈ rs, r.failure = none) : counted = rs.length := by
  cases hending : ending with
  | failed e => exact absurd hending (h.not_failed hwell e)
  | unfinished =>
    obtain ⟨hlength, hcounted, -⟩ := h.unfinished hending
    exact hcounted.trans hlength.symm
  | finished k =>
    obtain ⟨-, hlength, hcounted, -⟩ := h.finished k hending
    exact hcounted.trans hlength.symm

variable [AddCommGroup τ]

theorem began_of_isChain {interval now : τ} {rs : List (Round τ ε)}
    (hnow : ∀ r ∈ rs.head?, r.tick.began = now)
    (hchain : rs.IsChain fun r next => next.tick.began = r.tick.began + interval) {k : Nat}
    {r : Round τ ε} (hr : rs[k]? = some r) : r.tick.began = now + k • interval := by
  induction k generalizing rs now with
  | zero =>
    rw [zero_nsmul, add_zero]
    exact hnow r (by rwa [List.head?_eq_getElem?])
  | succ k ih =>
    cases rs with
    | nil => simp at hr
    | cons first rest =>
      obtain ⟨hfirst, hrest⟩ := List.isChain_cons.mp hchain
      obtain rfl := hnow first rfl
      rw [ih hfirst hrest hr, succ_nsmul', add_assoc]

variable [LinearOrder τ]

/-- How long after a round begins the next one does. -/
inductive Spaced (interval : τ) (r next : Round τ ε) : Prop where
  | sleepless (hcost : interval ≤ r.cost) (hs : r.sleep = none)
      (h : next.tick.began - r.tick.began = r.cost)
  | slept {s : Call τ ε} (hcost : r.cost < interval) (hs : r.sleep = some (interval - r.cost, s))
      (h : next.tick.began - r.tick.began = interval + oversleep (interval - r.cost, s))

/-- Where nothing takes longer than it should, a tick begins exactly an interval after the one before. -/
theorem Spaced.began_eq {interval : τ} {r next : Round τ ε} (h : Spaced interval r next)
    (hcost : r.cost ≤ interval) (hover : ∀ s ∈ r.sleep, oversleep s = 0) :
    next.tick.began = r.tick.began + interval := by
  rw [← sub_eq_iff_eq_add']
  cases h with
  | sleepless hge _ h => exact h.trans (le_antisymm hcost hge)
  | slept _ hs h => rw [h, hover _ hs, add_zero]

variable [IsOrderedAddMonoid τ] {interval : τ} {r next : Round τ ε}

theorem Spaced.interval_le (h : Spaced interval r next)
    (hover : ∀ s ∈ r.sleep, 0 ≤ oversleep s) : interval ≤ next.tick.began - r.tick.began := by
  cases h with
  | sleepless hcost _ h => exact h ▸ hcost
  | slept _ hs h => exact h ▸ le_add_of_nonneg_right (hover _ hs)

theorem Follows.spaced (h : Follows interval r next) (hrests : ∀ s ∈ r.sleep, Rests interval r s) :
    Spaced interval r next := by
  cases hs : r.sleep with
  | none =>
    have hcost : interval ≤ r.cost := not_lt.mp fun hlt => h.sleepless hs (sub_pos.mpr hlt)
    refine .sleepless hcost hs ?_
    rw [h.began, Round.ended, hs]
    rfl
  | some s =>
    obtain ⟨length, c⟩ := s
    obtain ⟨rfl, hpos, hbegan⟩ := hrests _ hs
    refine .slept (sub_pos.mp hpos) hs ?_
    rw [h.began, Round.ended, hs]
    simp only [oversleep, Round.cost, Option.map_some, Option.getD_some] at hbegan ⊢
    rw [hbegan]
    abel

theorem cost_nonneg {rs : List (Round τ ε)} (h : ∀ b ∈ rs.flatMap Round.beats, b.Forward)
    (hr : r ∈ rs) : 0 ≤ r.cost :=
  sub_nonneg.mpr (h (.tick r.tick) (List.mem_flatMap.mpr ⟨r, hr, List.mem_cons_self⟩))

theorem oversleep_nonneg {rs : List (Round τ ε)} (h : ∀ b ∈ rs.flatMap Round.beats, b.Forward)
    (hr : r ∈ rs) {s : τ × Call τ ε} (hs : s ∈ r.sleep) : 0 ≤ oversleep s := by
  have hmem : Beat.sleep s.1 s.2 ∈ r.beats := by
    rw [Round.beats, Option.mem_def.mp hs]
    exact List.mem_cons_of_mem _ (List.mem_singleton.mpr rfl)
  have hle : s.2.began + s.1 ≤ s.2.ended := h _ (List.mem_flatMap.mpr ⟨r, hr, hmem⟩)
  rw [oversleep, sub_sub]
  exact sub_nonneg.mpr hle

/-- In exact time, over any surroundings whose clock does not go back. The rounds are those of the ticks
that the run makes, and without a stop or a failure there are as many as the run may have. -/
theorem run_keeps_pace (host : Host σ τ ε) (limit : Option Int) (bound : Nat) (p : Pacer τ) (w : σ)
    (hforward : ∀ b ∈ (run host.recorded limit bound p (w, [])).2.2.2, b.Forward) :
    ∃ (rs : List (Round τ ε)) (counted : Nat) (ending : Ending ε) (p' : Pacer τ) (w' : σ),
      run host limit bound p w = (ending, p', w') ∧
      run host.recorded limit bound p (w, []) = (ending, p', w', rs.flatMap Round.beats) ∧
      ((run host.recorded limit bound p (w, [])).2.2.2.filterMap Beat.tickBegan? =
        rs.map fun r => r.tick.began) ∧
      Stops limit bound rs ending counted ∧ p'.ticks = p.ticks + counted ∧
      ((∀ r ∈ rs, r.stops = false) → (∀ r ∈ rs, r.failure = none) →
        rs.length = allowed limit bound ∧ counted = allowed limit bound) ∧
      (∀ r ∈ rs.head?, r.tick.began = host.clock w) ∧
      rs.IsChain (Spaced p.interval) ∧
      (∀ r ∈ rs, ∀ s ∈ r.sleep, 0 < s.1 ∧ s.1 ≤ p.interval) ∧
      (rs.IsChain fun r next => p.interval ≤ next.tick.began - r.tick.began) ∧
      ((∀ r ∈ rs, r.cost ≤ p.interval) → (∀ r ∈ rs, ∀ s ∈ r.sleep, oversleep s = 0) →
        ∀ (k : Nat) (r : Round τ ε), rs[k]? = some r →
          r.tick.began = host.clock w + k • p.interval) := by
  obtain ⟨rs, counted, ending, p', w', h⟩ :=
    exists_goes host limit bound 0 { p with stopped := false } w
  have hrecorded : run host.recorded limit bound p (w, []) = (ending, p', w', rs.flatMap Round.beats) :=
    h.recorded []
  rw [hrecorded] at hforward ⊢
  have hstops : Stops limit bound rs ending counted := h.paced.stops
  have hspaced : rs.IsChain (Spaced p.interval) :=
    h.paced.isChain.imp_of_mem_imp fun r next hr _ hfollows => hfollows.spaced (h.paced.rests r hr)
  refine ⟨rs, counted, ending, p', w', h.outcome, rfl, tickBegan?_beats rs, hstops, h.ticks, ?_,
    h.paced.began, hspaced, ?_, ?_, ?_⟩
  · intro hcalm hwell
    have hlength := hstops.length_eq h.paced.length_le hcalm hwell
    exact ⟨hlength, (hstops.counted_eq hwell).trans hlength⟩
  · intro r hr s hs
    obtain ⟨hlength, hpos, _⟩ := h.paced.rests r hr s hs
    refine ⟨hpos, ?_⟩
    rw [hlength]
    exact sub_le_self _ (cost_nonneg hforward hr)
  · exact hspaced.imp_of_mem_imp fun r next hr _ hspace =>
      hspace.interval_le fun s hs => oversleep_nonneg hforward hr hs
  · intro hcost hover k r hr
    refine began_of_isChain h.paced.began ?_ hr
    exact hspaced.imp_of_mem_imp fun r next hr _ hspace => hspace.began_eq (hcost r hr) (hover r hr)

/-- Surroundings whose first tick is quick, whose second is slow, whose third takes the whole interval,
and whose sleeps last too long after a quick one. -/
def uneven : Host (ℚ × Nat) ℚ Empty where
  clock w := w.1
  tick w := (⟨false, none⟩, w.1 + [3 / 10, 5 / 2, 1].getD w.2 0, w.2 + 1)
  sleep t w := (⟨false, none⟩, w.1 + t + 1 / 100, w.2)

/-- Five rounds: the second tick is late by what the first sleep took too long, the third and the fourth
begin where a tick that was slow ends, and the last again after a sleep. -/
theorem uneven_keeps_pace :
    (∀ b ∈ (run uneven.recorded (some 5) 9 ⟨1, 0, true⟩ ((7, 0), [])).2.2.2, b.Forward) ∧
    ∃ rs : List (Round ℚ Empty),
      (run uneven.recorded (some 5) 9 ⟨1, 0, true⟩ ((7, 0), [])).2.2.2 = rs.flatMap Round.beats ∧
      rs.length = 5 ∧
      (rs.map fun r => r.tick.began) = [7, 801 / 100, 1051 / 100, 1151 / 100, 1252 / 100] ∧
      rs.IsChain (Spaced 1) ∧ (∀ r ∈ rs, ∀ s ∈ r.sleep, 0 < s.1 ∧ s.1 ≤ 1) := by
  have hforward : ∀ b ∈ (run uneven.recorded (some 5) 9 ⟨1, 0, true⟩ ((7, 0), [])).2.2.2,
      b.Forward := by
    decide +kernel
  have hstarts : (run uneven.recorded (some 5) 9 ⟨1, 0, true⟩ ((7, 0), [])).2.2.2.filterMap
      Beat.tickBegan? = [7, 801 / 100, 1051 / 100, 1151 / 100, 1252 / 100] := by
    decide +kernel
  obtain ⟨rs, _, _, _, _, _, hrecorded, hbegan, _, _, _, _, hspaced, hsleeps, _⟩ :=
    run_keeps_pace uneven (some 5) 9 ⟨1, 0, true⟩ (7, 0) hforward
  have hmap := hbegan.symm.trans hstarts
  have hlength := congrArg List.length hmap
  rw [List.length_map] at hlength
  exact ⟨hforward, rs, by rw [hrecorded], hlength, hmap, hspaced, hsleeps⟩

end Pacer

end LiveConsole.Cadence
