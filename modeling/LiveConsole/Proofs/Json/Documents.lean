import LiveConsole.Proofs.Json.Spellings

/-!
# Documents

What is read is spelled, so within the limits of depth a text is read as a value exactly when it spells
the value. A text spells one value at most.
-/

namespace LiveConsole.Json
set_option autoImplicit false

/-- Whatever is read is taken off the front of the text, where it is spelled. -/
def Takes (inner : Text → Except Trouble (Found Datum)) : Prop :=
  ∀ t d rest, inner t = .ok (d, rest) → ∃ u, t = u ++ rest ∧ Spells u d

section Inside

variable {inner : Text → Except Trouble (Found Datum)} (hinner : Takes inner)
include hinner

/-- An element is read, and behind it the array ends or goes on. -/
theorem exists_element {fuel : Nat} {found : List Datum} {t rest : Text} {d : Datum}
    (h : elements inner (fuel + 1) found (skipSpace t) = .ok (d, rest)) :
    ∃ i : Element, i.Spaced ∧ Spells i.text i.value ∧
      (d = .list (i.value :: found).reverse ∧ t = i.whole ++ .scalar ']' :: rest ∨
        ∃ more, t = i.whole ++ .scalar ',' :: more ∧
          elements inner fuel (i.value :: found) (skipSpace more) = .ok (d, rest)) := by
  obtain ⟨b, hb, hskip⟩ := exists_blank_append t
  rw [elements] at h
  rcases hr : inner (skipSpace t) with e | ⟨v, t'⟩
  · rw [hr] at h
    contradiction
  · obtain ⟨u, hu, hv⟩ := hinner _ v t' hr
    obtain ⟨b', hb', hskip'⟩ := exists_blank_append t'
    rw [hu, hskip'] at hskip
    refine ⟨⟨b, u, b', v⟩, ⟨hb, hb'⟩, hv, ?_⟩
    rw [hr] at h
    simp only [bind, Except.bind] at h
    split at h
    · next after heq =>
      obtain ⟨rfl, rfl⟩ := Prod.mk.inj (Except.ok.inj h)
      refine .inl ⟨rfl, ?_⟩
      rw [hskip, heq]
      simp [Element.whole]
    · next after heq =>
      refine .inr ⟨after, ?_, h⟩
      rw [hskip, heq]
      simp [Element.whole]
    · contradiction

theorem exists_elements {fuel : Nat} {found : List Datum} {t rest : Text} {d : Datum}
    (h : elements inner fuel found (skipSpace t) = .ok (d, rest)) :
    ∃ is : List Element, is ≠ [] ∧ (∀ i ∈ is, i.Spaced) ∧ (∀ i ∈ is, Spells i.text i.value) ∧
      d = .list (found.reverse ++ is.map Element.value) ∧
      t = Text.join "," (is.map Element.whole) ++ .scalar ']' :: rest := by
  induction fuel generalizing found t with
  | zero => contradiction
  | succ fuel ih =>
    obtain ⟨i, hspaced, hspells, ⟨rfl, rfl⟩ | ⟨more, rfl, hmore⟩⟩ := exists_element hinner h
    · exact ⟨[i], by simp, by simpa using hspaced, by simpa using hspells, by simp, by simp⟩
    · obtain ⟨is, hne, hspaced', hspelled, rfl, hjoin⟩ := ih hmore
      refine ⟨i :: is, by simp, List.forall_mem_cons.mpr ⟨hspaced, hspaced'⟩,
        List.forall_mem_cons.mpr ⟨hspells, hspelled⟩, by simp, ?_⟩
      obtain ⟨j, is, rfl⟩ := List.exists_cons_of_ne_nil hne
      rw [hjoin]
      simp [join_comma]

/-- A member is read, and behind it the object ends or goes on. -/
theorem exists_member {fuel : Nat} {found : List (Datum × Datum)} {t rest : Text} {d : Datum}
    (h : members inner (fuel + 1) found (skipSpace t) = .ok (d, rest)) :
    ∃ m : Member, m.Spaced ∧ Letters m.letters m.name ∧ Spells m.element.text m.element.value ∧
      (d = .dict (Datum.assign m.entry.1 m.entry.2 found) ∧
          t = m.whole ++ .scalar '\x7d' :: rest ∨
        ∃ more, t = m.whole ++ .scalar ',' :: more ∧
          members inner fuel (Datum.assign m.entry.1 m.entry.2 found) (skipSpace more) =
            .ok (d, rest)) := by
  obtain ⟨b, hb, hskip⟩ := exists_blank_append t
  unfold members at h
  split at h
  · next body hquote =>
    rcases hs : stringBody (skipSpace t) false [] body with e | ⟨name, t₁⟩
    · rw [hs] at h
      contradiction
    · obtain ⟨letters, name, rfl, hletters, rfl⟩ := letters_of_stringBody hs .nothing
      obtain ⟨b₁, hb₁, hskip₁⟩ := exists_blank_append t₁
      rw [hs] at h
      simp only [bind, Except.bind] at h
      split at h
      · next after hcolon =>
        obtain ⟨b₂, hb₂, hskip₂⟩ := exists_blank_append after
        rcases hr : inner (skipSpace after) with e | ⟨v, t₂⟩
        · rw [hr] at h
          contradiction
        · obtain ⟨u, hu, hv⟩ := hinner _ v t₂ hr
          obtain ⟨b₃, hb₃, hskip₃⟩ := exists_blank_append t₂
          rw [hquote, hskip₁, hcolon, hskip₂, hu, hskip₃] at hskip
          refine ⟨⟨b, letters, b₁, name, ⟨b₂, u, b₃, v⟩⟩, ⟨hb, hb₁, hb₂, hb₃⟩, hletters, hv, ?_⟩
          rw [hr] at h
          dsimp only at h
          split at h
          · next rest' heq =>
            obtain ⟨rfl, rfl⟩ := Prod.mk.inj (Except.ok.inj h)
            refine .inl ⟨rfl, ?_⟩
            rw [hskip, heq]
            simp [Member.whole, Element.whole, quoted]
          · next more heq =>
            refine .inr ⟨more, ?_, h⟩
            rw [hskip, heq]
            simp [Member.whole, Element.whole, quoted]
          · contradiction
      · contradiction
  · contradiction

theorem exists_members {fuel : Nat} {found : List (Datum × Datum)} {t rest : Text} {d : Datum}
    (h : members inner fuel found (skipSpace t) = .ok (d, rest)) :
    ∃ ms : List Member, ms ≠ [] ∧ (∀ m ∈ ms, m.Spaced) ∧ (∀ m ∈ ms, Letters m.letters m.name) ∧
      (∀ m ∈ ms, Spells m.element.text m.element.value) ∧
      d = .dict ((ms.map Member.entry).foldl (fun es e => Datum.assign e.1 e.2 es) found) ∧
      t = Text.join "," (ms.map Member.whole) ++ .scalar '\x7d' :: rest := by
  induction fuel generalizing found t with
  | zero => contradiction
  | succ fuel ih =>
    obtain ⟨m, hspaced, hletters, hspells, ⟨rfl, rfl⟩ | ⟨more, rfl, hmore⟩⟩ :=
      exists_member hinner h
    · exact ⟨[m], by simp, by simpa using hspaced, by simpa using hletters, by simpa using hspells,
        rfl, by simp⟩
    · obtain ⟨ms, hne, hspaced', hnames, hspelled, rfl, hjoin⟩ := ih hmore
      refine ⟨m :: ms, by simp, List.forall_mem_cons.mpr ⟨hspaced, hspaced'⟩,
        List.forall_mem_cons.mpr ⟨hletters, hnames⟩, List.forall_mem_cons.mpr ⟨hspells, hspelled⟩,
        rfl, ?_⟩
      obtain ⟨n, ms, rfl⟩ := List.exists_cons_of_ne_nil hne
      rw [hjoin]
      simp [join_comma]

theorem exists_array {fuel : Nat} {t rest : Text} {d : Datum}
    (h : valueWith fuel (some inner) (.scalar '[' :: t) = .ok (d, rest)) :
    ∃ u, .scalar '[' :: t = u ++ rest ∧ Spells u d := by
  obtain ⟨b, hb, hskip⟩ := exists_blank_append t
  rw [valueWith] at h
  split at h
  · next heq =>
    obtain ⟨rfl, rfl⟩ := Prod.mk.inj (Except.ok.inj h)
    refine ⟨_, ?_, .emptyArray hb⟩
    rw [hskip, heq]
    simp
  · obtain ⟨is, hne, hspaced, hspelled, rfl, rfl⟩ := exists_elements hinner h
    exact ⟨_, by simp, .array hne hspaced hspelled⟩

theorem exists_object {fuel : Nat} {t rest : Text} {d : Datum}
    (h : valueWith fuel (some inner) (.scalar '\x7b' :: t) = .ok (d, rest)) :
    ∃ u, .scalar '\x7b' :: t = u ++ rest ∧ Spells u d := by
  obtain ⟨b, hb, hskip⟩ := exists_blank_append t
  rw [valueWith] at h
  split at h
  · next heq =>
    obtain ⟨rfl, rfl⟩ := Prod.mk.inj (Except.ok.inj h)
    refine ⟨_, ?_, .emptyObject hb⟩
    rw [hskip, heq]
    simp
  · obtain ⟨ms, hne, hspaced, hnames, hspelled, rfl, rfl⟩ := exists_members hinner h
    exact ⟨_, by simp, .object hne hspaced hnames hspelled⟩

end Inside

theorem takes_valueWith (fuel : Nat) {inner : Option (Text → Except Trouble (Found Datum))}
    (hinner : ∀ f ∈ inner, Takes f) : Takes (valueWith fuel inner) := by
  intro t d rest h
  unfold valueWith at h
  split at h
  · next body =>
    rcases hs : stringBody (.scalar '"' :: body) false [] body with e | ⟨s, t'⟩
    · rw [hs] at h
      contradiction
    · rw [hs] at h
      obtain ⟨rfl, rfl⟩ := Prod.mk.inj (Except.ok.inj h)
      obtain ⟨letters, s, rfl, hletters, rfl⟩ := letters_of_stringBody hs .nothing
      exact ⟨quoted letters, (quoted_append letters _).symm, .string hletters⟩
  · next body =>
    cases inner with
    | none => contradiction
    | some inner => exact exists_array (hinner inner rfl) h
  · next body =>
    cases inner with
    | none => contradiction
    | some inner => exact exists_object (hinner inner rfl) h
  · split at h
    · next found hword =>
      obtain rfl := Except.ok.inj h
      obtain ⟨u, hu, hd⟩ := exists_word hword
      exact ⟨u, hu, .word hd⟩
    · split at h
      · next body =>
        obtain ⟨u, rfl, hd⟩ := exists_number h
        exact ⟨sign true ++ u, rfl, .number hd⟩
      · obtain ⟨u, hu, hd⟩ := exists_number h
        exact ⟨u, hu, .number hd⟩

theorem takes_value (fuel depth : Nat) : Takes (value fuel depth) := by
  induction depth with
  | zero => exact takes_valueWith fuel (by simp)
  | succ depth ih =>
    refine takes_valueWith fuel fun f hf => ?_
    obtain rfl := Option.some.inj hf
    exact ih

theorem document_of_read {room : Nat} {t : Text} {d : Datum} (h : document room t = .ok d) :
    Document t d := by
  unfold document at h
  split at h
  · contradiction
  · obtain ⟨b, hb, hskip⟩ := exists_blank_append t
    rcases hv : value (t.length + 1) (room + 1) (skipSpace t) with e | ⟨d', rest⟩
    · rw [hv] at h
      contradiction
    · obtain ⟨u, hu, hd⟩ := takes_value _ _ _ _ _ hv
      obtain ⟨b', hb', hskip'⟩ := exists_blank_append rest
      rw [hv] at h
      simp only [bind, Except.bind] at h
      split at h
      · next heq =>
        obtain rfl := Except.ok.inj h
        rw [heq, List.append_nil] at hskip'
        subst hskip'
        exact ⟨b, u, rest, hb, hd, hb', by rw [List.append_assoc, ← hu, ← hskip]⟩
      · contradiction

theorem stops_of_blank {b : Text} (hb : Blank b) : Stops b := by
  have hall : ∀ c ∈ Text.ofString " \t\n\r", c ∈ Text.ofString " \t\n\r,]\x7d" := by decide
  exact fun c hc => hall c (hb c (List.mem_of_mem_head? hc))

theorem not_byteOrderMark {b u : Text} (hb : Blank b) (hu : Starts u) (rest : Text) :
    b ++ u ≠ .scalar '\uFEFF' :: rest := by
  have hall : ∀ c ∈ Text.ofString " \t\n\r", c ≠ .scalar '\uFEFF' := by decide
  intro h
  cases b with
  | nil =>
    obtain ⟨c, more, hc, rfl⟩ := hu
    exact (ne_of_start c hc).2.2.2 (List.cons.inj h).1
  | cons c b => exact hall c (hb c List.mem_cons_self) (List.cons.inj h).1

section Marked

variable {room : Nat} {t : Text} (hmark : ∀ rest, t ≠ .scalar '\uFEFF' :: rest)
include hmark

theorem document_of_value {d : Datum} {rest : Text}
    (h : value (t.length + 1) (room + 1) (skipSpace t) = .ok (d, rest)) (hrest : skipSpace rest = []) :
    document room t = .ok d := by
  unfold document
  split
  · next more => exact absurd rfl (hmark more)
  · simp only [h, bind, Except.bind, hrest]

theorem document_of_trouble {trouble : Trouble}
    (h : value (t.length + 1) (room + 1) (skipSpace t) = .error trouble) :
    document room t = .error trouble := by
  unfold document
  split
  · next more => exact absurd rfl (hmark more)
  · simp only [h, bind, Except.bind]

end Marked

theorem read_of_document (room : Nat) {t : Text} {d : Datum} (h : Document t d) :
    read room t = .ok d ∨ ∃ array, read room t = .error (.tooDeep array) := by
  obtain ⟨b, u, b', hb, hu, hb', rfl⟩ := h
  have hmark (rest : Text) : b ++ u ++ b' ≠ .scalar '\uFEFF' :: rest := by
    obtain ⟨c, tail, hc, hstart⟩ := hu.starts
    rw [List.append_assoc]
    exact not_byteOrderMark hb ⟨c, tail ++ b', hc, by rw [hstart]; rfl⟩ rest
  have hskip : skipSpace (b ++ u ++ b') = u ++ b' := by
    rw [List.append_assoc, skipSpace_start hb hu.starts]
  have hend : skipSpace b' = [] := by
    have := skipSpace_blank hb' []
    rwa [List.append_nil] at this
  have hlength : u.length ≤ (b ++ u ++ b').length + 1 := by
    simp only [List.length_append]
    omega
  rcases yields_of_spells hu hlength (room + 1) b' (stops_of_blank hb') with hok | ⟨array, hdeep⟩
  · rw [← hskip] at hok
    left
    rw [read, document_of_value hmark hok hend]
  · rw [← hskip] at hdeep
    right
    refine ⟨array, ?_⟩
    rw [read, document_of_trouble hmark hdeep]
    rfl

/-- Where there is room for its arrays and objects, a text is read as a value exactly when it spells the
value. -/
theorem read_eq_ok_iff {room : Nat} {t : Text} (ht : nesting t ≤ room + 1) {d : Datum} :
    read room t = .ok d ↔ Document t d := by
  constructor
  · intro h
    unfold read at h
    rcases hd : document room t with e | d'
    · rw [hd] at h
      contradiction
    · rw [hd] at h
      obtain rfl := Except.ok.inj h
      exact document_of_read hd
  · intro h
    rcases read_of_document room h with hok | ⟨array, hdeep⟩
    · exact hok
    · exact absurd (room_lt_nesting hdeep) (Nat.not_lt.mpr ht)

end LiveConsole.Json
