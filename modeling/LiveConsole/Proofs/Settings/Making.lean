import LiveConsole.Proofs.Settings.Layers

/-!
# Making settings

Two layers of options are taken, or refused with an error of configuration. There is one more way out: an
error that comes up when the values are asked, or when the one that breaks the first rule is shown.
-/

namespace LiveConsole
set_option autoImplicit false

namespace Settings

variable {V ε σ : Type}

/-- An error of configuration, and no error of a value. -/
def Refusal.IsConfigError (r : Refusal ε) : Prop := ∃ f, r.fault = .ok f ∧ f.kind = .configError

theorem Refusal.isConfigError_unknown (names : List Text) :
    (Refusal.unknown names : Refusal ε).IsConfigError := ⟨_, rfl, rfl⟩

theorem Refusal.isConfigError_invalid (s : Setting) (shown : Text) :
    (Refusal.invalid s shown : Refusal ε).IsConfigError := by
  cases s <;> exact ⟨_, rfl, rfl⟩

section Outcomes
variable {g : Gauge V ε σ} {p q : Draft V} {a b : List (Text × V)} {s s' : σ}

theorem check_error {ts : List Setting} {r : Refusal ε}
    (h : check g p ts s = (.error r, s')) : r.IsConfigError ∨ ∃ e, r = .raised e := by
  cases checks_iff.mp h with
  | broken => exact .inl (Refusal.isConfigError_invalid _ _)
  | upset => exact .inr ⟨_, rfl⟩

theorem lay_error {r : Refusal ε} (h : lay g p (named a) s = (.error r, s')) :
    r.IsConfigError ∨ ∃ e, r = .raised e := by
  have hlays := lays g p a s
  rw [h] at hlays
  cases hlays with
  | unknown => exact .inl (Refusal.isConfigError_unknown _)
  | broken => exact .inl (Refusal.isConfigError_invalid _ _)
  | troubled => exact .inr ⟨_, rfl⟩

theorem assemble_error {r : Refusal ε} (h : assemble g (named a) (named b) s = (.error r, s')) :
    r.IsConfigError ∨ ∃ e, r = .raised e := by
  rw [assemble] at h
  rcases hcheck : check g (initialDraft g) ruled s with ⟨r' | _, s₁⟩
  · simp only [hcheck, Prod.mk.injEq, Except.error.injEq] at h
    exact check_error (h.1 ▸ hcheck)
  · simp only [hcheck, layTwo] at h
    rcases hlay : lay g (initialDraft g) (named a) s₁ with ⟨r' | c, s₂⟩
    · simp only [hlay, Prod.mk.injEq, Except.error.injEq] at h
      exact lay_error (h.1 ▸ hlay)
    · obtain ⟨rfl, -⟩ := lay_eq_ok_iff.mp hlay
      rw [hlay] at h
      exact lay_error h

/-- The values after a layer keep the rules if those before it do. -/
theorem Laid.exists_kept {s₀ s₁ : σ} (h : Laid g p a s s') (hp : Kept g p ruled s₀ s₁) :
    ∃ s₂ s₃, Kept g (overlaid p a) ruled s₂ s₃ := by
  rcases h with ⟨-, ⟨rfl, -⟩ | ⟨-, hkept⟩⟩
  · exact ⟨s₀, s₁, hp⟩
  · exact ⟨s, s', hkept⟩

theorem assemble_eq_ok (h : assemble g (named a) (named b) s = (.ok q, s')) :
    q = overlaid (overlaid (initialDraft g) a) b ∧ ∃ s₁ s₂, Kept g q ruled s₁ s₂ := by
  rw [assemble] at h
  rcases hcheck : check g (initialDraft g) ruled s with ⟨r | _, s₁⟩
  · simp [hcheck] at h
  · rw [hcheck] at h
    obtain ⟨rfl, s₂, ha, hb⟩ := layTwo_eq_ok_iff.mp h
    obtain ⟨s₃, s₄, hkept⟩ := ha.exists_kept (check_eq_ok_iff.mp hcheck)
    exact ⟨rfl, hb.exists_kept hkept⟩

theorem assemble_eq_raised_iff {e : ε} :
    assemble g (named a) (named b) s = (.error (.raised e), s') ↔
      Upset g (initialDraft g) ruled s e s' ∨ ∃ s₁, Kept g (initialDraft g) ruled s s₁ ∧
        (Troubles g (initialDraft g) a s₁ e s' ∨ ∃ s₂, Laid g (initialDraft g) a s₁ s₂ ∧
          Troubles g (overlaid (initialDraft g) a) b s₂ e s') := by
  rw [assemble]
  rcases hcheck : check g (initialDraft g) ruled s with ⟨r | _, s₁⟩
  · have hraised : (Except.error r, s₁) = ((.error (.raised e), s') : Except (Refusal ε) Unit × σ) ↔
        Upset g (initialDraft g) ruled s e s' := by
      rw [← hcheck, check_eq_raised_iff]
    simp only [Prod.mk.injEq, Except.error.injEq] at hraised ⊢
    rw [hraised]
    refine ⟨.inl, fun h => h.resolve_right ?_⟩
    rintro ⟨s₂, hkept, -⟩
    rw [hkept.check] at hcheck
    simp at hcheck
  · have hnot : ¬Upset g (initialDraft g) ruled s e s' := by
      rw [← check_eq_raised_iff, hcheck]
      simp
    dsimp only
    rw [layTwo_eq_raised_iff]
    constructor
    · exact fun h => .inr ⟨s₁, check_eq_ok_iff.mp hcheck, h⟩
    · intro h
      obtain ⟨s₂, hkept, htroubles⟩ := h.resolve_left hnot
      rw [hkept.check] at hcheck
      obtain ⟨-, rfl⟩ := Prod.mk.inj hcheck
      exact htroubles

end Outcomes

/-- A number that breaks the rule of its option is the first that breaks one. -/
theorem faulty_single {s : Setting} {n : Int}
    (h : ¬Rule (overlaid initial.draft (single s n)) s) :
    Faulty (overlaid initial.draft (single s n)) s := by
  have hkept : ∀ t, t ≠ s → t ≠ .maxLine → Rule (overlaid initial.draft (single s n)) t := by
    intro t hts hmax
    have hunnamed : Text.ofString t.name ∉ (single s n).map Prod.fst := by
      intro hmem
      exact hts (Setting.name_inj (List.mem_singleton.mp hmem))
    have hsame : overlaid initial.draft (single s n) t = initial.draft t :=
      overlaid_of_not_mem hunnamed
    exact Rule.of_eq hmax hsame.symm (initial.valid_draft t)
  refine ⟨h, ?_⟩
  cases s with
  | host | banner => exact absurd trivial h
  | port => exact ⟨[], _, rfl, by simp⟩
  | timeout => exact ⟨[.port], _, rfl, by simp [hkept]⟩
  | backlog => exact ⟨[.port, .timeout], _, rfl, by simp [hkept]⟩
  | recvSize => exact ⟨[.port, .timeout, .backlog], _, rfl, by simp [hkept]⟩
  | maxLine => exact ⟨[.port, .timeout, .backlog, .recvSize], _, rfl, by simp [hkept]⟩

theorem literal_int (n : Int) : Datum.literal (.int n) = Digits.write n := by
  simp only [Datum.literal]

theorem make_single {s : Setting} {n : Int}
    (h : ¬Rule (overlaid initial.draft (single s n)) s) (overrides : Datum) :
    make (.layer (.dict (named (single s n)))) overrides =
      .error (if Digits.fits n then .invalid s (Digits.numeral n)
        else .raised (.unwritable ⟨⟩)) := by
  have hbroken : Reaches gauge (overlaid initial.draft (single s n)) ruled s () (.ok false) () :=
    reaches_false_iff.mpr (faulty_single h)
  have hvalue := overlaid_single initial.draft s n
  have hmerge : initial.merge (.dict (named (single s n))) =
      .error (if Digits.fits n then .invalid s (Digits.numeral n)
        else .raised (.unwritable ⟨⟩)) := by
    refine merge_of_error ?_
    rw [lay_of_known (by simp [single]) (known_single s n)]
    cases hfits : Digits.fits n with
    | true =>
      have hshown : gauge.literal (overlaid initial.draft (single s n) s) () =
          (.ok (Digits.numeral n), ()) := by
        rw [hvalue]
        simp [gauge, literal_int, Digits.write, hfits, Except.mapError]
      rw [hbroken.check_of_shown hshown]
      rfl
    | false =>
      have hliteral : gauge.literal (overlaid initial.draft (single s n) s) () =
          (.error (.unwritable ⟨⟩), ()) := by
        rw [hvalue]
        simp [gauge, literal_int, Digits.write, hfits, Except.mapError]
      rw [(Upset.shown hbroken hliteral).check]
      rfl
  rw [make, hmerge]
  rfl

/-- Two layers give values whose rules were all kept when they were asked for, or an error of configuration,
unless an error comes up: when the values are asked, or when the one that breaks the first rule is shown. Data
raise none when they are asked, and of those out of range the numbers of too many digits raise one when
they are shown. -/
theorem made_or_refused (g : Gauge V ε σ) (a b : List (Text × V)) (s : σ) :
    (∀ q s', assemble g (named a) (named b) s = (.ok q, s') →
      q = overlaid (overlaid (initialDraft g) a) b ∧ ∃ s₁ s₂, Kept g q ruled s₁ s₂) ∧
    (∀ r s', assemble g (named a) (named b) s = (.error r, s') →
      r.IsConfigError ∨ ∃ e, r = .raised e) ∧
    (∀ e s', assemble g (named a) (named b) s = (.error (.raised e), s') ↔
      Upset g (initialDraft g) ruled s e s' ∨ ∃ s₁, Kept g (initialDraft g) ruled s s₁ ∧
        (Troubles g (initialDraft g) a s₁ e s' ∨ ∃ s₂, Laid g (initialDraft g) a s₁ s₂ ∧
          Troubles g (overlaid (initialDraft g) a) b s₂ e s')) ∧
    (∀ x y : List (Text × Datum),
      (make (.layer (.dict (named x))) (.dict (named y))).map draft =
        (assemble gauge (named x) (named y) ()).1) ∧
    (∀ d, Kept gauge d ruled () () ↔ Valid d) ∧
    (∀ d e, Upset gauge d ruled () e () ↔ ∃ t reason, Faulty d t ∧
      (d t).literal = .error reason ∧ e = .unwritable reason) ∧
    ∀ (t : Setting) (n : Int), ¬Rule (overlaid initial.draft (single t n)) t →
      ∀ overrides, make (.layer (.dict (named (single t n)))) overrides =
        .error (if Digits.fits n then .invalid t (Digits.numeral n)
          else .raised (.unwritable ⟨⟩)) :=
  ⟨fun _ _ => assemble_eq_ok, fun _ _ => assemble_error, fun _ _ => assemble_eq_raised_iff,
    fun x y => make_dict (named x) (named y), fun _ => kept_ruled_iff, fun _ _ => upset_gauge_iff,
    fun _ _ => make_single⟩

/-- A number of too many digits is refused for a port, and not with an error of configuration. -/
theorem hugePort_unwritable :
    (match make (.layer (.dict (named (single .port (twoTo 20000))))) (.dict (named [])) with
    | .error (.raised f) => f.isA .valueError && !f.isA .configError
    | _ => false) = true := by
  decide +kernel

end Settings
end LiveConsole
