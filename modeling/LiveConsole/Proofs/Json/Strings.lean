import LiveConsole.Proofs.Json.Grammar
import LiveConsole.Proofs.Json.Nesting
import LiveConsole.Proofs.Json.Rereading

/-!
# Blanks and strings that are read

The reader takes a blank or a string off a text exactly when the text begins with one: what is spelled is
read, whatever follows it, and what is read is spelled.
-/

namespace LiveConsole.Json
set_option autoImplicit false

theorem isSpace_iff {c : CodePoint} : isSpace c = true ↔ c ∈ Text.ofString " \t\n\r" := by
  have htext : Text.ofString " \t\n\r" =
    [.scalar ' ', .scalar '\t', .scalar '\n', .scalar '\r'] := rfl
  cases c with
  | lone half => simp [isSpace, htext]
  | scalar c => simp [isSpace, htext, or_assoc]

theorem simpleEscape?_iff {k c : Char} : simpleEscape? k = some c ↔ (k, c) ∈ shortEscapes := by
  constructor
  · intro h
    unfold simpleEscape? at h
    split at h
    all_goals
      first
      | (obtain rfl := Option.some.inj h; decide)
      | contradiction
  · intro h
    have hall : ∀ p ∈ shortEscapes, simpleEscape? p.1 = some p.2 := by decide
    exact hall _ h

/-- What holds of the first characters holds of a character among them. -/
theorem ascii_cases {p : Char → Prop} (h : ∀ n < 128, p (Char.ofNat n)) {c : Char}
    (hc : c.toNat < 128) : p c := by
  have := h c.toNat hc
  rwa [Char.ofNat_toNat] at this

theorem toNat_lt_of_le {c d : Char} (h : c ≤ d) (hd : d.toNat < 128) : c.toNat < 128 :=
  Nat.lt_of_le_of_lt (UInt32.le_iff_toNat_le.mp h) hd

theorem hexDigit?_iff {c : Char} {i : Nat} :
    hexDigit? (.scalar c) = some i ↔ (c, i) ∈ hexDigits := by
  constructor
  · intro h
    have hc : c.toNat < 128 := by
      unfold hexDigit? at h
      dsimp only at h
      split at h
      · next hle => exact toNat_lt_of_le hle.2 (by decide)
      · split at h
        · next hle => exact toNat_lt_of_le hle.2 (by decide)
        · split at h
          · next hle => exact toNat_lt_of_le hle.2 (by decide)
          · contradiction
    have hall : ∀ n < 128, ∀ j ∈ hexDigit? (.scalar (Char.ofNat n)),
        (Char.ofNat n, j) ∈ hexDigits := by
      decide +kernel
    exact ascii_cases (p := fun c => ∀ j ∈ hexDigit? (.scalar c), (c, j) ∈ hexDigits) hall hc i h
  · intro h
    have hall : ∀ p ∈ hexDigits, hexDigit? (.scalar p.1) = some p.2 := by decide
    exact hall _ h

/-- What a check of the ten digits finds. -/
theorem forall_digit {p : Char → Prop} [DecidablePred p]
    (h : "0123456789".toList.all (fun c => decide (p c)) = true) {c : Char}
    (hc : c ∈ "0123456789".toList) : p c :=
  of_decide_eq_true (List.all_eq_true.mp h c hc)

theorem digit?_iff {c : CodePoint} {d : Char} :
    digit? c = some d ↔ c = .scalar d ∧ d ∈ "0123456789".toList := by
  constructor
  · intro h
    cases c with
    | lone half => contradiction
    | scalar c =>
      have hdigit : c.isDigit = true ∧ c = d := by simpa [digit?] using h
      obtain ⟨hdigit, rfl⟩ := hdigit
      have hle : c ≤ '9' := by
        simp only [Char.isDigit, Bool.and_eq_true, decide_eq_true_eq] at hdigit
        exact hdigit.2
      have hall : ∀ n < 128, (Char.ofNat n).isDigit = true →
          Char.ofNat n ∈ "0123456789".toList := by
        decide +kernel
      exact ⟨rfl, ascii_cases (p := fun c => c.isDigit = true → c ∈ "0123456789".toList) hall
        (toNat_lt_of_le hle (by decide)) hdigit⟩
  · rintro ⟨rfl, hd⟩
    exact forall_digit (p := fun d => digit? (.scalar d) = some d) (by decide) hd

theorem skipSpace_blank {b : Text} (hb : Blank b) (t : Text) :
    skipSpace (b ++ t) = skipSpace t := by
  exact List.dropWhile_append_of_pos fun c hc => isSpace_iff.mpr (hb c hc)

theorem skipSpace_cons {c : CodePoint} (hc : isSpace c = false) (t : Text) :
    skipSpace (c :: t) = c :: t := by
  rw [skipSpace, List.dropWhile_cons_of_neg (by simp [hc])]

/-- What is skipped is blank. -/
theorem exists_blank_append (t : Text) : ∃ b, Blank b ∧ t = b ++ skipSpace t := by
  refine ⟨t.takeWhile isSpace, ?_, (List.takeWhile_append_dropWhile).symm⟩
  intro c hc
  exact isSpace_iff.mp (List.all_eq_true.mp List.all_takeWhile c hc)

theorem hexNumber?_iff {a b c d : CodePoint} {n : Nat} :
    hexNumber? a b c d = some n ↔ CodeUnit [a, b, c, d] n := by
  constructor
  · intro h
    simp only [hexNumber?, Option.bind_eq_bind, Option.bind_eq_some_iff] at h
    obtain ⟨i, ha, j, hb, k, hc, l, hd, hn⟩ := h
    obtain rfl := Option.some.inj hn
    rcases a with a | half
    · rcases b with b | half
      · rcases c with c | half
        · rcases d with d | half
          · exact .mk (hexDigit?_iff.mp ha) (hexDigit?_iff.mp hb) (hexDigit?_iff.mp hc)
              (hexDigit?_iff.mp hd)
          · contradiction
        · contradiction
      · contradiction
    · contradiction
  · intro h
    cases h with
    | mk ha hb hc hd =>
      simp [hexNumber?, hexDigit?_iff.mpr ha, hexDigit?_iff.mpr hb, hexDigit?_iff.mpr hc,
        hexDigit?_iff.mpr hd]

theorem CodeUnit.eq_cons {digits : Text} {n : Nat} (h : CodeUnit digits n) :
    ∃ a b c d, digits = [a, b, c, d] ∧ hexNumber? a b c d = some n := by
  cases h with
  | mk ha hb hc hd => exact ⟨_, _, _, _, rfl, hexNumber?_iff.mpr (.mk ha hb hc hd)⟩

theorem CodeUnit.unique {digits : Text} {m n : Nat} (h : CodeUnit digits m)
    (h' : CodeUnit digits n) : m = n := by
  obtain ⟨a, b, c, d, rfl, hm⟩ := h.eq_cons
  have hn := hexNumber?_iff.mpr h'
  rw [hm] at hn
  exact Option.some.inj hn

theorem ofNat_of_isHigh {n : Nat} (h : IsHigh n) :
    ∃ half : Fin 2048, CodePoint.ofNat n = .lone half ∧ half.val = n - 0xD800 := by
  obtain ⟨hle, hlt⟩ := h
  have hn : 0xD800 ≤ n ∧ n < 0xD800 + 2048 := by omega
  exact ⟨⟨n - 0xD800, by omega⟩, by rw [CodePoint.ofNat, dif_pos hn], rfl⟩

/-- Only a low half behind a high one that was escaped joins it. -/
theorem addEscaped_of_alone {n : Nat} {afterHigh : Bool} (h : afterHigh = true → ¬IsLow n)
    (found : Text) : addEscaped n afterHigh found = CodePoint.ofNat n :: found := by
  unfold addEscaped
  split
  · rw [if_neg fun hjoin => h hjoin.1 hjoin.2]
  · rfl

theorem addEscaped_of_pair {m n : Nat} (hm : IsHigh m) (hn : IsLow n) (earlier : Text) :
    addEscaped n true (CodePoint.ofNat m :: earlier) =
      CodePoint.ofNat (0x10000 + (m - 0xD800) * 0x400 + (n - 0xDC00)) :: earlier := by
  obtain ⟨half, hhalf, hval⟩ := ofNat_of_isHigh hm
  rw [hhalf, addEscaped, if_pos ⟨rfl, hn⟩, hval]

theorem stringBody_escaped {digits : Text} {n : Nat} (hn : CodeUnit digits n) (start : Text)
    (afterHigh : Bool) (found : Text) {t : Text} (ht : t ≠ []) :
    stringBody start afterHigh found (escaped digits ++ t) =
      stringBody start (decide (IsHigh n)) (addEscaped n afterHigh found) t := by
  obtain ⟨a, b, c, d, rfl, hnumber⟩ := hn.eq_cons
  obtain ⟨next, more, rfl⟩ := List.exists_cons_of_ne_nil ht
  change stringBody start afterHigh found
    (.scalar '\\' :: .scalar 'u' :: a :: b :: c :: d :: next :: more) = _
  rw [stringBody, hnumber]
  rfl

theorem ne_u_of_short {k c : Char} (hk : (k, c) ∈ shortEscapes) : k ≠ 'u' := by
  rintro rfl
  revert hk
  simp [shortEscapes]

/-- What is spelled is read. -/
theorem stringBody_of_letters {t s : Text} (h : Letters t s) (start : Text) (afterHigh : Bool)
    (hlow : afterHigh = true → ¬BeginsLow t) (found rest : Text) :
    stringBody start afterHigh found (t ++ .scalar '"' :: rest) = .ok (found.reverse ++ s, rest) := by
  have hend : ∀ u : Text, u ++ .scalar '"' :: rest ≠ [] := by simp
  induction h generalizing afterHigh found with
  | nil => simp [stringBody]
  | @raw c t s hq hb hc h ih =>
    rw [List.cons_append, stringBody_raw _ _ _ _ hq hb hc, ih false (by simp)]
    simp
  | @short k c t s hk h ih =>
    rw [List.cons_append, List.cons_append,
      stringBody_simpleEscape _ _ _ _ (ne_u_of_short hk) (simpleEscape?_iff.mpr hk),
      ih false (by simp)]
    simp
  | @unicode digits t s n hn hlone h ih =>
    have halone : afterHigh = true → ¬IsLow n :=
      fun ha hl => hlow ha ⟨digits, n, t, hn, hl, rfl⟩
    rw [List.append_assoc, stringBody_escaped hn _ _ _ (hend t), addEscaped_of_alone halone,
      ih _ fun hhigh => hlone (of_decide_eq_true hhigh)]
    simp
  | @pair high low t s m n hm hhigh hn hlowHalf h ih =>
    have hnotLow : ¬IsLow m := fun hl => absurd hhigh.2 (Nat.not_lt.mpr hl.1)
    have hnotHigh : ¬IsHigh n := fun hh => absurd hh.2 (Nat.not_lt.mpr hlowHalf.1)
    rw [List.append_assoc, List.append_assoc, stringBody_escaped hm _ _ _ (by simp [escaped]),
      addEscaped_of_alone fun _ => hnotLow, decide_eq_true hhigh,
      stringBody_escaped hn _ _ _ (hend t), addEscaped_of_pair hhigh hlowHalf,
      decide_eq_false hnotHigh, ih false (by simp)]
    simp

theorem not_beginsLow_of_escaped {digits : Text} {n : Nat} (hn : CodeUnit digits n)
    (hlow : ¬IsLow n) (t : Text) : ¬BeginsLow (escaped digits ++ t) := by
  rintro ⟨digits', n', rest, hn', hlow', heq⟩
  obtain ⟨a, b, c, d, rfl, _⟩ := hn.eq_cons
  obtain ⟨a', b', c', d', rfl, _⟩ := hn'.eq_cons
  have hdigits : [a, b, c, d] = [a', b', c', d'] := by
    simp only [escaped, List.cons_append, List.nil_append, List.cons.injEq, true_and] at heq
    obtain ⟨rfl, rfl, rfl, rfl, _⟩ := heq
    rfl
  rw [hdigits] at hn
  exact hlow (hn.unique hn' ▸ hlow')

theorem not_beginsLow_of_ne {c : CodePoint} (hc : c ≠ .scalar '\\') (t : Text) :
    ¬BeginsLow (c :: t) := by
  rintro ⟨digits, n, rest, _, _, heq⟩
  exact hc (List.cons.inj heq).1

theorem not_beginsLow_of_short {k : Char} (hk : k ≠ 'u') (t : Text) :
    ¬BeginsLow (.scalar '\\' :: .scalar k :: t) := by
  rintro ⟨digits, n, rest, _, _, heq⟩
  obtain ⟨_, htail⟩ := List.cons.inj heq
  exact hk (CodePoint.scalar.inj (List.cons.inj htail).1)

/-- What the reader has in hand: behind an escaped high half, the escape may still be completed. -/
inductive Pending : Bool → Text → Text → Text → Prop where
  | nothing {found : Text} : Pending false found [] found
  | high {digits earlier : Text} {m : Nat} (hm : CodeUnit digits m) (hhigh : IsHigh m) :
      Pending true (CodePoint.ofNat m :: earlier) (escaped digits) earlier

/-- An escape that is not completed stands for itself. -/
theorem Pending.letters {afterHigh : Bool} {found before earlier t s : Text}
    (hp : Pending afterHigh found before earlier) (h : Letters t s)
    (hlow : afterHigh = true → ¬BeginsLow t) :
    ∃ s', Letters (before ++ t) s' ∧ found.reverse ++ s = earlier.reverse ++ s' := by
  cases hp with
  | nothing => exact ⟨s, h, rfl⟩
  | @high _ _ m hm hhigh =>
    exact ⟨_, .unicode hm (fun _ => hlow rfl) h, by simp⟩

/-- What is in hand behind an escape, and how what is spelled then is spelled from before it. -/
theorem Pending.escape {afterHigh : Bool} {found before earlier digits : Text} {n : Nat}
    (hp : Pending afterHigh found before earlier) (hn : CodeUnit digits n) :
    ∃ before' earlier', Pending (decide (IsHigh n)) (addEscaped n afterHigh found) before' earlier' ∧
      ∀ u s, Letters (before' ++ u) s → ∃ s', Letters (before ++ (escaped digits ++ u)) s' ∧
        earlier'.reverse ++ s = earlier.reverse ++ s' := by
  by_cases hjoin : afterHigh = true ∧ IsLow n
  · obtain ⟨rfl, hlow⟩ := hjoin
    have hnotHigh : ¬IsHigh n := fun hh => absurd hh.2 (Nat.not_lt.mpr hlow.1)
    cases hp with
    | high hm hhigh =>
      rw [addEscaped_of_pair hhigh hlow, decide_eq_false hnotHigh]
      exact ⟨[], _, .nothing, fun u s hs => ⟨_, .pair hm hhigh hn hlow hs, by simp⟩⟩
  · have halone : afterHigh = true → ¬IsLow n := fun ha hl => hjoin ⟨ha, hl⟩
    have hlow (u : Text) (ha : afterHigh = true) : ¬BeginsLow (escaped digits ++ u) :=
      not_beginsLow_of_escaped hn (halone ha) u
    rw [addEscaped_of_alone halone]
    by_cases hhigh : IsHigh n
    · rw [decide_eq_true hhigh]
      exact ⟨_, _, .high hn hhigh, fun u s hs => hp.letters hs (hlow u)⟩
    · rw [decide_eq_false hhigh]
      refine ⟨[], _, .nothing, fun u s hs => ?_⟩
      obtain ⟨s', hs', heq⟩ := hp.letters (.unicode hn (fun hh => absurd hh hhigh) hs) (hlow u)
      exact ⟨s', hs', by rw [← heq]; simp⟩

/-- What is read is spelled. -/
theorem letters_of_stringBody {start : Text} {afterHigh : Bool} {found before earlier t r rest : Text}
    (h : stringBody start afterHigh found t = .ok (r, rest))
    (hp : Pending afterHigh found before earlier) :
    ∃ u s, t = u ++ .scalar '"' :: rest ∧ Letters (before ++ u) s ∧ r = earlier.reverse ++ s := by
  fun_induction stringBody start afterHigh found t generalizing before earlier with
  | case1 => contradiction
  | case2 afterHigh found more =>
    obtain ⟨rfl, rfl⟩ := Prod.mk.inj (Except.ok.inj h)
    obtain ⟨s, hs, heq⟩ := hp.letters .nil (fun _ => by simp [BeginsLow, escaped])
    exact ⟨[], s, rfl, hs, by rw [← heq, List.append_nil]⟩
  | case3 => contradiction
  | case4 afterHigh found a b c d next more n hnumber ih =>
    obtain ⟨before', earlier', hp', hback⟩ := hp.escape (hexNumber?_iff.mp hnumber)
    obtain ⟨u, s, hu, hs, rfl⟩ := ih h hp'
    obtain ⟨s', hs', heq⟩ := hback u s hs
    refine ⟨escaped [a, b, c, d] ++ u, s', ?_, hs', heq⟩
    rw [List.append_assoc, ← hu]
    rfl
  | case5 => contradiction
  | case6 => contradiction
  | case7 afterHigh found k more hu c hk ih =>
    obtain ⟨u, s, rfl, hs, rfl⟩ := ih h .nothing
    have hshort := simpleEscape?_iff.mp hk
    obtain ⟨s', hs', heq⟩ := hp.letters (.short hshort hs)
      fun _ => not_beginsLow_of_short (ne_u_of_short hshort) _
    exact ⟨_, s', rfl, hs', by rw [← heq]; simp⟩
  | case8 => contradiction
  | case9 => contradiction
  | case10 => contradiction
  | case11 afterHigh found c more hq hnil _ hscalar hlone hlt ih =>
    obtain ⟨u, s, rfl, hs, rfl⟩ := ih h .nothing
    have hb := ne_backslash hnil hscalar hlone
    obtain ⟨s', hs', heq⟩ := hp.letters (.raw hq hb (Nat.le_of_not_lt hlt) hs)
      fun _ => not_beginsLow_of_ne hb _
    exact ⟨_, s', rfl, hs', by rw [← heq]; simp⟩

end LiveConsole.Json
