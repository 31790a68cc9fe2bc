import LiveConsole.Settings

/-!
# What the checks come to

The rules are asked for in an order, each in the state in which the question before it ended. The checks
end at the first rule that is not kept: its value is shown, or an error came up on the way.
-/

namespace LiveConsole
set_option autoImplicit false

namespace Settings

variable {V ε σ : Type}

section Checks
variable (g : Gauge V ε σ) (d : Draft V)

/-- The rules of some options are kept when they are asked for one after the other. -/
inductive Kept : List Setting → σ → σ → Prop where
  | nil {s : σ} : Kept [] s s
  | cons {t : Setting} {ts : List Setting} {s s₁ s' : σ} (h : keeps g d t s = (.ok true, s₁))
      (hrest : Kept ts s₁ s') : Kept (t :: ts) s s'

/-- All rules before that of an option are kept, and the question for that one comes to an answer. -/
def Reaches (ts : List Setting) (t : Setting) (s : σ) (a : Except ε Bool) (s' : σ) : Prop :=
  ∃ before after s₁, ts = before ++ t :: after ∧ Kept g d before s s₁ ∧ keeps g d t s₁ = (a, s')

/-- The first rule that is broken is that of an option. -/
def FirstBroken (t : Setting) (s s' : σ) : Prop := Reaches g d ruled t s (.ok false) s'

/-- An error comes up when a rule is asked for, or when the value is shown that breaks the first. -/
inductive Upset (ts : List Setting) (s : σ) : ε → σ → Prop where
  | asked {t : Setting} {e : ε} {s' : σ} (h : Reaches g d ts t s (.error e) s') : Upset ts s e s'
  | shown {t : Setting} {e : ε} {s₁ s' : σ} (h : Reaches g d ts t s (.ok false) s₁)
      (hliteral : g.literal (d t) s₁ = (.error e, s')) : Upset ts s e s'

/-- What checks can come to. -/
inductive Checks (ts : List Setting) (s : σ) : Except (Refusal ε) Unit × σ → Prop where
  | kept {s' : σ} (h : Kept g d ts s s') : Checks ts s (.ok (), s')
  | broken {t : Setting} {shown : Text} {s₁ s' : σ} (h : Reaches g d ts t s (.ok false) s₁)
      (hshown : g.literal (d t) s₁ = (.ok shown, s')) :
      Checks ts s (.error (.invalid t shown), s')
  | upset {e : ε} {s' : σ} (h : Upset g d ts s e s') : Checks ts s (.error (.raised e), s')

end Checks

variable {g : Gauge V ε σ} {d : Draft V} {t : Setting} {ts : List Setting} {s s₁ s' : σ}

theorem Reaches.here {a : Except ε Bool} (h : keeps g d t s = (a, s')) :
    Reaches g d (t :: ts) t s a s' :=
  ⟨[], ts, s, rfl, .nil, h⟩

theorem Reaches.later {u : Setting} {a : Except ε Bool} (hkept : keeps g d t s = (.ok true, s₁))
    (h : Reaches g d ts u s₁ a s') : Reaches g d (t :: ts) u s a s' := by
  obtain ⟨before, after, s₂, rfl, hbefore, hu⟩ := h
  exact ⟨t :: before, after, s₂, rfl, .cons hkept hbefore, hu⟩

theorem Checks.later {r : Except (Refusal ε) Unit × σ} (hkept : keeps g d t s = (.ok true, s₁))
    (h : Checks g d ts s₁ r) : Checks g d (t :: ts) s r := by
  cases h with
  | kept h => exact .kept (.cons hkept h)
  | broken h hshown => exact .broken (h.later hkept) hshown
  | upset h =>
    cases h with
    | asked h => exact .upset (.asked (h.later hkept))
    | shown h hliteral => exact .upset (.shown (h.later hkept) hliteral)

theorem checks (g : Gauge V ε σ) (d : Draft V) (ts : List Setting) (s : σ) :
    Checks g d ts s (check g d ts s) := by
  induction ts generalizing s with
  | nil => exact .kept .nil
  | cons t ts ih =>
    rw [check]
    rcases hkeeps : keeps g d t s with ⟨e | _ | _, s₁⟩
    · exact .upset (.asked (.here hkeeps))
    · dsimp only
      rcases hliteral : g.literal (d t) s₁ with ⟨e | shown, s₂⟩
      · exact .upset (.shown (.here hkeeps) hliteral)
      · exact .broken (.here hkeeps) hliteral
    · exact (ih s₁).later hkeeps

/-- What is kept is passed over. -/
theorem Kept.check_append {before : List Setting} (h : Kept g d before s s₁) (rest : List Setting) :
    check g d (before ++ rest) s = check g d rest s₁ := by
  induction h with
  | nil => rfl
  | cons h _ ih =>
    rw [List.cons_append, check, h]
    exact ih

theorem Kept.check (h : Kept g d ts s s') : check g d ts s = (.ok (), s') := by
  simpa [Settings.check] using h.check_append []

theorem Reaches.check_of_shown {shown : Text} (h : Reaches g d ts t s (.ok false) s₁)
    (hshown : g.literal (d t) s₁ = (.ok shown, s')) :
    check g d ts s = (.error (.invalid t shown), s') := by
  obtain ⟨before, after, s₂, rfl, hbefore, ht⟩ := h
  rw [hbefore.check_append, Settings.check, ht]
  simp only [hshown]

theorem Upset.check {e : ε} (h : Upset g d ts s e s') :
    check g d ts s = (.error (.raised e), s') := by
  cases h with
  | asked h =>
    obtain ⟨before, after, s₂, rfl, hbefore, ht⟩ := h
    rw [hbefore.check_append, Settings.check, ht]
  | shown h hliteral =>
    obtain ⟨before, after, s₂, rfl, hbefore, ht⟩ := h
    rw [hbefore.check_append, Settings.check, ht]
    simp only [hliteral]

theorem Checks.check {r : Except (Refusal ε) Unit × σ} (h : Checks g d ts s r) :
    check g d ts s = r := by
  cases h with
  | kept h => exact h.check
  | broken h hshown => exact h.check_of_shown hshown
  | upset h => exact h.check

theorem checks_iff {r : Except (Refusal ε) Unit × σ} : check g d ts s = r ↔ Checks g d ts s r :=
  ⟨fun h => h ▸ checks g d ts s, Checks.check⟩

theorem check_eq_ok_iff : check g d ts s = (.ok (), s') ↔ Kept g d ts s s' := by
  refine ⟨fun h => ?_, Kept.check⟩
  cases checks_iff.mp h with
  | kept h => exact h

theorem check_eq_raised_iff {e : ε} :
    check g d ts s = (.error (.raised e), s') ↔ Upset g d ts s e s' := by
  refine ⟨fun h => ?_, Upset.check⟩
  cases checks_iff.mp h with
  | upset h => exact h

section Order
variable {before after : List Setting}

/-- The rule of the last option comes after all others, -/
theorem maxLine_not_mem_of_ruled_eq (h : ruled = before ++ t :: after) : .maxLine ∉ before := by
  have hlast : ruled.Pairwise fun s _ => s ≠ .maxLine := by decide
  rw [h] at hlast
  exact fun hmem => (List.pairwise_append.mp hlast).2.2 _ hmem _ List.mem_cons_self rfl

/-- and so after that of the size. -/
theorem recvSize_mem_of_ruled_eq (h : ruled = before ++ .maxLine :: after) : .recvSize ∈ before := by
  have hlast : ruled.Pairwise fun s _ => s ≠ .maxLine := by decide
  have hmem : .recvSize ∈ ruled := by decide
  rw [h] at hlast hmem
  obtain ⟨hnone, -⟩ := List.pairwise_cons.mp (List.pairwise_append.mp hlast).2.1
  rcases List.mem_append.mp hmem with hmem | hmem
  · exact hmem
  · rcases List.mem_cons.mp hmem with heq | hmem
    · contradiction
    · exact absurd rfl (hnone _ hmem)

end Order

section Data
variable {d : Draft Datum} {t : Setting} {ts : List Setting} {u u' : Unit}

/-- All rules but the last look at one value each. -/
theorem Rule.of_eq {e : Draft Datum} (ht : t ≠ .maxLine) (heq : d t = e t) (h : Rule d t) :
    Rule e t := by
  cases t with
  | maxLine => exact absurd rfl ht
  | host | banner => trivial
  | _ => simpa only [Rule, heq] using h

/-- A question to data has an answer that is no error. -/
def Answers (a : Asking Fault Unit Bool) : Prop := ∃ b, a () = (.ok b, ())

theorem Answers.no {a : Asking Fault Unit Bool} (h : Answers a) : Answers (.no a) := by
  obtain ⟨b, hb⟩ := h
  exact ⟨!b, by rw [Asking.no, hb]; rfl⟩

theorem Answers.both {a b : Asking Fault Unit Bool} (ha : Answers a)
    (hb : a () = (.ok true, ()) → Answers b) : Answers (.both a b) := by
  obtain ⟨x, hx⟩ := ha
  cases x with
  | false => exact ⟨false, by rw [Asking.both, hx]⟩
  | true =>
    obtain ⟨y, hy⟩ := hb hx
    exact ⟨y, by rw [Asking.both, hx]; exact hy⟩

theorem answers_isWhole (v : Datum) : Answers (isWhole gauge v) := by
  cases v <;> exact ⟨_, rfl⟩

/-- The rules that look at data have answers; that of the last option looks at two integers. -/
theorem answers_keeps (ht : t = .maxLine → ∃ m, d .recvSize = .int m) :
    Answers (keeps gauge d t) := by
  cases t with
  | host | banner => exact ⟨true, rfl⟩
  | port =>
    refine (answers_isWhole _).both fun h => ?_
    obtain ⟨n, hn⟩ := isWhole_gauge_iff.mp h
    rw [hn]
    exact Answers.both ⟨_, rfl⟩ fun _ => ⟨_, rfl⟩
  | timeout =>
    refine Answers.both (Answers.no ?_) fun _ => Answers.both ?_ fun h => ?_
    · cases d .timeout <;> exact ⟨_, rfl⟩
    · cases d .timeout <;> exact ⟨_, rfl⟩
    · revert h
      cases d .timeout with
      | flag | int | float => exact fun _ => Answers.no ⟨_, rfl⟩
      | _ => exact fun h => by simp [gauge] at h
  | backlog =>
    refine (answers_isWhole _).both fun h => ?_
    obtain ⟨n, hn⟩ := isWhole_gauge_iff.mp h
    rw [hn]
    exact Answers.no ⟨_, rfl⟩
  | recvSize =>
    refine (answers_isWhole _).both fun h => ?_
    obtain ⟨n, hn⟩ := isWhole_gauge_iff.mp h
    rw [hn]
    exact Answers.no ⟨_, rfl⟩
  | maxLine =>
    obtain ⟨m, hm⟩ := ht rfl
    refine (answers_isWhole _).both fun h => ?_
    obtain ⟨n, hn⟩ := isWhole_gauge_iff.mp h
    rw [hn, hm]
    exact Answers.no ⟨_, rfl⟩

/-- All rules before that of an option are kept by data, and that one is not. -/
def Faulty (d : Draft Datum) (t : Setting) : Prop :=
  ¬Rule d t ∧ ∃ before after, ruled = before ++ t :: after ∧ ∀ u ∈ before, Rule d u

theorem kept_gauge_iff :
    Kept gauge d ts u u' ↔ ∀ t ∈ ts, keeps gauge d t () = (.ok true, ()) := by
  constructor
  · intro h
    exact keeps_of_check h.check
  · intro h
    induction ts with
    | nil => exact .nil
    | cons t ts ih =>
      obtain ⟨ht, hts⟩ := List.forall_mem_cons.mp h
      exact .cons ht (ih hts)

theorem kept_ruled_iff : Kept gauge d ruled u u' ↔ Valid d := by
  constructor
  · intro h
    exact valid_of_check h.check
  · intro h
    refine kept_gauge_iff.mpr fun t _ => (keeps_iff fun _ => ?_).mpr (h t)
    obtain ⟨m, -, hm, -⟩ := h .maxLine
    exact ⟨m, hm⟩

section Before
variable {before after : List Setting} (hruled : ruled = before ++ t :: after)
include hruled

theorem kept_before_iff : Kept gauge d before u u' ↔ ∀ t ∈ before, Rule d t := by
  have hmax := maxLine_not_mem_of_ruled_eq hruled
  rw [kept_gauge_iff]
  exact forall₂_congr fun t ht => keeps_iff fun heq => absurd (heq ▸ ht) hmax

/-- The rule of an option has an answer if those before it are kept. -/
theorem exists_recvSize_of_before (h : ∀ t ∈ before, Rule d t) (ht : t = .maxLine) :
    ∃ m, d .recvSize = .int m := by
  subst ht
  obtain ⟨m, hm, -⟩ := h .recvSize (recvSize_mem_of_ruled_eq hruled)
  exact ⟨m, hm⟩

end Before

theorem reaches_false_iff : Reaches gauge d ruled t u (.ok false) u' ↔ Faulty d t := by
  constructor
  · rintro ⟨before, after, s₁, hruled, hbefore, ht⟩
    have hrules := (kept_before_iff hruled).mp hbefore
    refine ⟨fun hrule => ?_, before, after, hruled, hrules⟩
    have hkept : keeps gauge d t s₁ = (.ok true, u') :=
      (keeps_iff (exists_recvSize_of_before hruled hrules)).mpr hrule
    rw [hkept] at ht
    simp at ht
  · rintro ⟨hrule, before, after, hruled, hrules⟩
    refine ⟨before, after, (), hruled, (kept_before_iff hruled).mpr hrules, ?_⟩
    have hlooks := exists_recvSize_of_before hruled hrules
    obtain ⟨b, hb⟩ := answers_keeps hlooks
    cases b with
    | false => exact hb
    | true => exact absurd ((keeps_iff hlooks).mp hb) hrule

theorem not_reaches_error {e : Fault} : ¬Reaches gauge d ruled t u (.error e) u' := by
  rintro ⟨before, after, s₁, hruled, hbefore, ht⟩
  have hrules := (kept_before_iff hruled).mp hbefore
  obtain ⟨b, hb⟩ := answers_keeps (exists_recvSize_of_before hruled hrules)
  rw [hb] at ht
  simp at ht

/-- Data are refused for an error only if the value that breaks the first rule has no literal form. -/
theorem upset_gauge_iff {e : Fault} : Upset gauge d ruled u e u' ↔
    ∃ t reason, Faulty d t ∧ (d t).literal = .error reason ∧ e = .unwritable reason := by
  constructor
  · intro h
    cases h with
    | asked h => exact absurd h not_reaches_error
    | @shown t e s₁ _ h hliteral =>
      change ((d t).literal.mapError Fault.unwritable, ()) = _ at hliteral
      cases hshown : (d t).literal with
      | ok shown =>
        rw [hshown] at hliteral
        cases hliteral
      | error reason =>
        rw [hshown] at hliteral
        cases hliteral
        exact ⟨t, reason, reaches_false_iff.mp h, hshown, rfl⟩
  · rintro ⟨t, reason, h, hreason, rfl⟩
    have hreaches : Reaches gauge d ruled t u (.ok false) () := reaches_false_iff.mpr h
    refine .shown hreaches ?_
    change ((d t).literal.mapError Fault.unwritable, ()) = _
    rw [hreason]
    rfl

end Data

end Settings
end LiveConsole
