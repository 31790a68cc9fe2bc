import LiveConsole.Proofs.Json.Strings

/-!
# Numbers and words that are read

The reader takes the longest number off a text. That is the number that is spelled, if nothing follows it
that could be a part of it.
-/

namespace LiveConsole.Json
set_option autoImplicit false

/-- What may follow a value. -/
def Stops (t : Text) : Prop := ∀ c ∈ t.head?, c ∈ Text.ofString " \t\n\r,]\x7d"

/-- What may follow digits. -/
def NoDigit (t : Text) : Prop := ∀ c ∈ t.head?, digit? c = none

theorem Stops.noDigit {t : Text} (h : Stops t) : NoDigit t := by
  have hall : ∀ c ∈ Text.ofString " \t\n\r,]\x7d", digit? c = none := by decide
  exact fun c hc => hall c (h c hc)

theorem takeDigits_append {ds : List Char} (hds : ∀ c ∈ ds, c ∈ "0123456789".toList)
    (found : List Char) {rest : Text} (hrest : NoDigit rest) :
    takeDigits found (Text.ofChars ds ++ rest) = (found.reverse ++ ds, rest) := by
  induction ds generalizing found with
  | nil =>
    cases rest with
    | nil => simp [Text.ofChars, takeDigits]
    | cons c rest => simp [Text.ofChars, takeDigits, hrest c rfl]
  | cons d ds ih =>
    obtain ⟨hd, htail⟩ := List.forall_mem_cons.mp hds
    have hdigit : digit? (.scalar d) = some d := digit?_iff.mpr ⟨rfl, hd⟩
    have htake : takeDigits found (Text.ofChars (d :: ds) ++ rest) =
        takeDigits (d :: found) (Text.ofChars ds ++ rest) := by
      simp only [Text.ofChars, List.map_cons, List.cons_append, takeDigits, hdigit]
    rw [htake, ih htail]
    simp

theorem exists_digits (found : List Char) (t : Text) :
    ∃ ds, (∀ c ∈ ds, c ∈ "0123456789".toList) ∧ (takeDigits found t).1 = found.reverse ++ ds ∧
      t = Text.ofChars ds ++ (takeDigits found t).2 := by
  fun_induction takeDigits found t with
  | case1 found => exact ⟨[], by simp, by simp, rfl⟩
  | case2 found c rest d hd ih =>
    obtain ⟨ds, hds, hfound, hrest⟩ := ih
    obtain ⟨rfl, hmem⟩ := digit?_iff.mp hd
    refine ⟨d :: ds, List.forall_mem_cons.mpr ⟨hmem, hds⟩, by simp [hfound], ?_⟩
    exact congrArg (CodePoint.scalar d :: ·) hrest
  | case3 found c rest hd => exact ⟨[], by simp, by simp, rfl⟩

theorem head_ofChars_append {ds : List Char} (hds : ds ≠ []) (rest : Text) :
    ∃ d more, ds = d :: more ∧
      Text.ofChars ds ++ rest = .scalar d :: (Text.ofChars more ++ rest) := by
  obtain ⟨d, more, rfl⟩ := List.exists_cons_of_ne_nil hds
  exact ⟨d, more, rfl, rfl⟩

theorem whole_append {ds : List Char} (hds : Whole ds) {rest : Text} (hrest : NoDigit rest) :
    (match Text.ofChars ds ++ rest with
      | .scalar '0' :: rest => (['0'], rest)
      | _ => takeDigits [] (Text.ofChars ds ++ rest)) = (ds, rest) := by
  obtain ⟨⟨hne, hdigits⟩, hzero⟩ := hds
  obtain ⟨d, more, rfl, happend⟩ := head_ofChars_append hne rest
  split
  · next rest' heq =>
    rw [happend] at heq
    obtain ⟨hd, htail⟩ := List.cons.inj heq
    obtain rfl := CodePoint.scalar.inj hd
    obtain ⟨_, rfl⟩ := List.cons.inj (hzero rfl)
    obtain rfl : rest = rest' := htail
    rfl
  · rw [takeDigits_append hdigits [] hrest]
    rfl

theorem exists_whole {body after : Text} {ds : List Char} (h : (match body with
    | .scalar '0' :: rest => (['0'], rest)
    | _ => takeDigits [] body) = (ds, after)) (hne : ds ≠ []) :
    Whole ds ∧ body = Text.ofChars ds ++ after := by
  split at h
  · obtain ⟨rfl, rfl⟩ := Prod.mk.inj h
    exact ⟨⟨⟨by simp, List.forall_mem_singleton.mpr (by decide)⟩, fun _ => rfl⟩, rfl⟩
  · next hzero =>
    obtain ⟨ds', hds', hfound, hbody⟩ := exists_digits [] body
    rw [h] at hfound hbody
    obtain rfl : ds = ds' := hfound
    refine ⟨⟨⟨hne, hds'⟩, fun hhead => ?_⟩, hbody⟩
    obtain ⟨d, more, rfl, happend⟩ := head_ofChars_append hne after
    obtain rfl : d = '0' := Option.some.inj hhead
    exact absurd (hbody.trans happend) (hzero _)

theorem fraction_append {fraction : Text} {fs : List Char} (hf : Fraction fraction fs)
    {rest : Text} (hrest : NoDigit rest) (hpoint : rest.head? ≠ some (.scalar '.')) :
    (fraction? (fraction ++ rest)).getD ([], fraction ++ rest) = (fs, rest) := by
  cases hf with
  | none =>
    have hnone : fraction? rest = none := by
      unfold fraction?
      split
      · simp at hpoint
      · rfl
    rw [List.nil_append, hnone]
    rfl
  | some h =>
    have htake := takeDigits_append h.2 [] hrest
    have hne : fs ≠ [] := h.1
    simp only [List.cons_append, fraction?, htake]
    obtain ⟨d, more, rfl⟩ := List.exists_cons_of_ne_nil hne
    rfl

theorem exists_fraction {t rest : Text} {fs : List Char}
    (h : (fraction? t).getD ([], t) = (fs, rest)) :
    ∃ fraction, Fraction fraction fs ∧ t = fraction ++ rest := by
  unfold fraction? at h
  split at h
  · next body =>
    obtain ⟨ds, hds, hfound, hbody⟩ := exists_digits [] body
    split at h
    · obtain ⟨rfl, rfl⟩ := Prod.mk.inj h
      exact ⟨[], .none, rfl⟩
    · next htake =>
      rw [Option.getD_some] at h
      rw [h] at hfound hbody
      obtain rfl : fs = ds := hfound
      have hne : fs ≠ [] := by
        rintro rfl
        exact htake _ h
      exact ⟨_, .some ⟨hne, hds⟩, by rw [hbody]; rfl⟩
  · obtain ⟨rfl, rfl⟩ := Prod.mk.inj h
    exact ⟨[], .none, rfl⟩

theorem exists_sign {signed body : Text} {negative : Bool} (h : (match signed with
    | .scalar '-' :: r => (true, r)
    | .scalar '+' :: r => (false, r)
    | r => (false, r)) = (negative, body)) :
    negative = true ∧ signed = .scalar '-' :: body ∨
      negative = false ∧ (signed = .scalar '+' :: body ∨ signed = body) := by
  split at h
  · obtain ⟨rfl, rfl⟩ := Prod.mk.inj h
    exact .inl ⟨rfl, rfl⟩
  · obtain ⟨rfl, rfl⟩ := Prod.mk.inj h
    exact .inr ⟨rfl, .inl rfl⟩
  · obtain ⟨rfl, rfl⟩ := Prod.mk.inj h
    exact .inr ⟨rfl, .inr rfl⟩

theorem exponent_append {exponent : Text} {e : Int} (he : Exponent exponent e) {rest : Text}
    (hrest : Stops rest) : exponent = [] ∧ e = 0 ∧ exponent? rest = none ∨
      exponent ≠ [] ∧ exponent? (exponent ++ rest) = some (e, rest) := by
  cases he with
  | none =>
    refine .inl ⟨rfl, rfl, ?_⟩
    cases rest with
    | nil => rfl
    | cons c rest =>
      have hall : ∀ c ∈ Text.ofString " \t\n\r,]\x7d",
          c ≠ .scalar 'e' ∧ c ≠ .scalar 'E' := by decide
      obtain ⟨hlower, hupper⟩ := hall c (hrest c rfl)
      cases c with
      | lone half => rfl
      | scalar c =>
        unfold exponent?
        dsimp only
        rw [if_neg]
        rintro (rfl | rfl)
        · exact hlower rfl
        · exact hupper rfl
  | @unsigned c ds hc h =>
    have htake := takeDigits_append h.2 [] hrest.noDigit
    obtain ⟨d, more, rfl, happend⟩ := head_ofChars_append h.1 rest
    obtain ⟨hminus, hplus⟩ : d ≠ '-' ∧ d ≠ '+' :=
      forall_digit (p := fun d => d ≠ '-' ∧ d ≠ '+') (by decide) (h.2 d List.mem_cons_self)
    refine .inr ⟨by simp, ?_⟩
    rw [List.cons_append, exponent?, if_pos hc, htake]
    · rfl
    · intro r hr
      rw [happend] at hr
      exact hminus (CodePoint.scalar.inj (List.cons.inj hr).1)
    · intro r hr
      rw [happend] at hr
      exact hplus (CodePoint.scalar.inj (List.cons.inj hr).1)
  | @plus c ds hc h =>
    have htake := takeDigits_append h.2 [] hrest.noDigit
    obtain ⟨d, more, rfl, _⟩ := head_ofChars_append h.1 rest
    refine .inr ⟨by simp, ?_⟩
    rw [List.cons_append, List.cons_append, exponent?, if_pos hc, htake]
    rfl
  | @minus c ds hc h =>
    have htake := takeDigits_append h.2 [] hrest.noDigit
    obtain ⟨d, more, rfl, _⟩ := head_ofChars_append h.1 rest
    refine .inr ⟨by simp, ?_⟩
    rw [List.cons_append, List.cons_append, exponent?, if_pos hc, htake]
    rfl

theorem exists_exponent {t rest : Text} {e : Int} (h : exponent? t = some (e, rest)) :
    ∃ exponent, exponent ≠ [] ∧ Exponent exponent e ∧ t = exponent ++ rest := by
  unfold exponent? at h
  split at h
  · next c signed =>
    split at h
    · next hc =>
      split at h
      next negative body hsign =>
      obtain ⟨ds, hds, hfound, hbody⟩ := exists_digits [] body
      split at h
      · contradiction
      · next ds' after hnil htake =>
        rw [htake] at hfound hbody
        obtain rfl : ds' = ds := hfound
        have hdecimal : Decimal ds' := ⟨hnil, hds⟩
        obtain ⟨rfl, rfl⟩ := Prod.mk.inj (Option.some.inj h)
        rcases exists_sign hsign with ⟨rfl, rfl⟩ | ⟨rfl, rfl | rfl⟩
        · exact ⟨_, by simp, .minus hc hdecimal, by rw [hbody]; rfl⟩
        · exact ⟨_, by simp, .plus hc hdecimal, by rw [hbody]; rfl⟩
        · exact ⟨_, by simp, .unsigned hc hdecimal, congrArg (CodePoint.scalar c :: ·) hbody⟩
    · contradiction
  · contradiction

theorem noDigit_exponent {exponent : Text} {e : Int} (he : Exponent exponent e) {rest : Text}
    (hrest : Stops rest) :
    NoDigit (exponent ++ rest) ∧ (exponent ++ rest).head? ≠ some (.scalar '.') := by
  have hmark : ∀ c : Char, c = 'e' ∨ c = 'E' → digit? (.scalar c) = none ∧ c ≠ '.' := by
    rintro c (rfl | rfl) <;> decide
  cases he with
  | none =>
    refine ⟨hrest.noDigit, fun hpoint => ?_⟩
    exact absurd (hrest _ hpoint) (by decide)
  | unsigned hc | plus hc | minus hc =>
    refine ⟨fun c hhead => ?_, fun hpoint => ?_⟩
    · obtain rfl := Option.some.inj hhead
      exact (hmark _ hc).1
    · exact (hmark _ hc).2 (CodePoint.scalar.inj (Option.some.inj hpoint))

theorem noDigit_fraction {fraction : Text} {fs : List Char} (hf : Fraction fraction fs)
    {rest : Text} (hrest : NoDigit rest) : NoDigit (fraction ++ rest) := by
  cases hf with
  | none => exact hrest
  | some h =>
    intro c hhead
    obtain rfl := Option.some.inj hhead
    decide

theorem number_append {ds fs : List Char} {fraction exponent rest : Text} {e : Int}
    (hds : Whole ds) (hf : Fraction fraction fs) (he : Exponent exponent e) (hrest : Stops rest)
    (start : Text) (negative : Bool) :
    number start negative (Text.ofChars ds ++ (fraction ++ (exponent ++ rest))) =
      if fraction = [] ∧ exponent = [] then
        if ds.length > digitLimit then .error (.tooLong ds.length)
        else .ok (.int (if negative then -(Digits.value ds : Int) else Digits.value ds), rest)
      else .ok (.float (Binary64.ofDecimal negative (Digits.value (ds ++ fs)) (e - fs.length)),
        rest) := by
  obtain ⟨hexponent, hpoint⟩ := noDigit_exponent he hrest
  have hwhole := whole_append hds (noDigit_fraction hf hexponent)
  have hfraction := fraction_append hf hexponent hpoint
  have hempty : fs.isEmpty = true ↔ fraction = [] := by
    cases hf with
    | none => simp
    | some h => simp [h.1]
  unfold number
  dsimp only
  split
  · next heq =>
    exact absurd (Prod.mk.inj (heq.symm.trans hwhole)).1 hds.1.1.symm
  · next ds' after _ heq =>
    obtain ⟨rfl, rfl⟩ := Prod.mk.inj (heq.symm.trans hwhole)
    rw [hfraction]
    dsimp only
    rcases exponent_append he hrest with ⟨rfl, rfl, hnone⟩ | ⟨hne, hsome⟩
    · rw [List.nil_append] at hwhole ⊢
      rw [hnone]
      by_cases hnil : fraction = []
      · subst hnil
        cases hf with
        | none => simp
      · have hfs : ¬fs.isEmpty = true := fun h => hnil (hempty.mp h)
        rw [if_neg (fun h => hfs h.1), if_neg (fun h => hnil h.1)]
        rfl
    · rw [hsome, if_neg (fun h => by simpa using h.2), if_neg (fun h => hne h.2)]
      rfl

/-- What is spelled is read. -/
theorem number_of_spelled {t : Text} {d : Datum} (h : Number t d) {rest : Text}
    (hrest : Stops rest) : ∃ negative body, t = sign negative ++ body ∧
      (∃ c more, c ∈ "0123456789".toList ∧ body = .scalar c :: more) ∧
      ∀ start, number start negative (body ++ rest) = .ok (d, rest) := by
  have hhead : ∀ {ds : List Char} (u : Text), Whole ds →
      ∃ c more, c ∈ "0123456789".toList ∧ Text.ofChars ds ++ u = .scalar c :: more := by
    intro ds u hds
    obtain ⟨c, more, rfl, happend⟩ := head_ofChars_append hds.1.1 u
    exact ⟨c, _, hds.1.2 c List.mem_cons_self, happend⟩
  cases h with
  | @int negative ds hds hlimit =>
    refine ⟨negative, _, rfl, by simpa using hhead [] hds, fun start => ?_⟩
    have hnumber := number_append hds .none .none hrest start negative
    rw [if_pos ⟨rfl, rfl⟩, if_neg (Nat.not_lt.mpr hlimit)] at hnumber
    exact hnumber
  | @float negative ds fs fraction exponent e hds hf he hsome =>
    refine ⟨negative, _, rfl, hhead _ hds, fun start => ?_⟩
    rw [List.append_assoc, List.append_assoc, number_append hds hf he hrest, if_neg]
    rintro ⟨rfl, rfl⟩
    exact hsome rfl

/-- What is read is spelled. -/
theorem exists_number {start body rest : Text} {negative : Bool} {d : Datum}
    (h : number start negative body = .ok (d, rest)) :
    ∃ u, body = u ++ rest ∧ Number (sign negative ++ u) d := by
  unfold number at h
  dsimp only at h
  split at h
  · contradiction
  · next ds after hne hmatch =>
    obtain ⟨hds, rfl⟩ := exists_whole hmatch hne
    split at h
    · next hplain =>
      split at h
      · contradiction
      · next hlimit =>
        obtain ⟨rfl, rfl⟩ := Prod.mk.inj (Except.ok.inj h)
        exact ⟨_, rfl, .int hds (Nat.le_of_not_lt hlimit)⟩
    · next hparts =>
      obtain ⟨rfl, rfl⟩ := Prod.mk.inj (Except.ok.inj h)
      rcases hfraction : (fraction? after).getD ([], after) with ⟨fs, afterFraction⟩
      rw [hfraction] at hparts
      obtain ⟨fraction, hf, rfl⟩ := exists_fraction hfraction
      cases hexponent : exponent? afterFraction with
      | none =>
        rw [hexponent] at hparts
        have hne : fraction ++ [] ≠ [] := by
          rintro hnil
          cases hf with
          | none => exact hparts ⟨rfl, rfl⟩
          | some => simp at hnil
        exact ⟨Text.ofChars ds ++ (fraction ++ []), by simp, .float hds hf .none hne⟩
      | some found =>
        obtain ⟨exponent, hne, he, rfl⟩ := exists_exponent hexponent
        exact ⟨Text.ofChars ds ++ (fraction ++ exponent), by simp,
          .float hds hf he (by simp [hne])⟩

/-- What is spelled is read. -/
theorem word?_append {t : Text} {d : Datum} (h : Word t d) (rest : Text) :
    word? (t ++ rest) = some (d, rest) := by
  cases h <;> rfl

/-- What is read is spelled. -/
theorem exists_word {t rest : Text} {d : Datum} (h : word? t = some (d, rest)) :
    ∃ u, t = u ++ rest ∧ Word u d := by
  obtain ⟨⟨w, v⟩, hw, h⟩ := List.exists_of_findSome?_eq_some h
  dsimp only at h
  split at h
  · next hprefix =>
    obtain ⟨rfl, rfl⟩ := Prod.mk.inj (Option.some.inj h)
    obtain ⟨more, rfl⟩ := List.isPrefixOf_iff_prefix.mp hprefix
    refine ⟨Text.ofString w, by rw [List.drop_left], ?_⟩
    simp only [words, List.mem_cons, Prod.mk.injEq, List.not_mem_nil, or_false] at hw
    rcases hw with ⟨rfl, rfl⟩ | ⟨rfl, rfl⟩ | ⟨rfl, rfl⟩ | ⟨rfl, rfl⟩ | ⟨rfl, rfl⟩ | ⟨rfl, rfl⟩
    · exact .null
    · exact .true
    · exact .false
    · exact .nan
    · exact .infinity
    · exact .minusInfinity
  · contradiction

/-- No word begins as a number does. -/
theorem word?_of_digit {c : Char} (hc : c ∈ "0123456789".toList) (more : Text) :
    word? (.scalar c :: more) = none ∧ word? (.scalar '-' :: .scalar c :: more) = none := by
  have hlist : "0123456789".toList = ['0', '1', '2', '3', '4', '5', '6', '7', '8', '9'] := rfl
  simp only [hlist, List.mem_cons, List.not_mem_nil, or_false] at hc
  rcases hc with rfl | rfl | rfl | rfl | rfl | rfl | rfl | rfl | rfl | rfl
  all_goals exact ⟨rfl, rfl⟩

end LiveConsole.Json
