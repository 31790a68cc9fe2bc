import LiveConsole.Proofs.Json.Numbers

/-!
# What is spelled is read

By induction on the spelling of a value: whatever follows it, nothing but a depth beyond the limit keeps
it from being read.
-/

namespace LiveConsole.Json
set_option autoImplicit false

/-- What a value begins with. -/
def Starts (t : Text) : Prop :=
  ∃ c more, c ∈ Text.ofString "\"[\x7bntfNI-0123456789" ∧ t = c :: more

theorem Number.starts {t : Text} {d : Datum} (h : Number t d) : Starts t := by
  have hnil : Stops [] := fun c hc => by contradiction
  obtain ⟨negative, body, rfl, ⟨c, more, hc, rfl⟩, _⟩ := number_of_spelled h hnil
  cases negative with
  | true => exact ⟨.scalar '-', .scalar c :: more, by decide, rfl⟩
  | false =>
    have hmem : CodePoint.scalar c ∈ Text.ofString "\"[\x7bntfNI-0123456789" :=
      forall_digit (p := fun c => CodePoint.scalar c ∈ Text.ofString "\"[\x7bntfNI-0123456789")
        (by decide) hc
    exact ⟨.scalar c, more, hmem, rfl⟩

theorem Spells.starts {t : Text} {d : Datum} (h : Spells t d) : Starts t := by
  cases h with
  | word h => cases h <;> exact ⟨_, _, by decide, rfl⟩
  | number h => exact h.starts
  | string h => exact ⟨_, _, by decide, rfl⟩
  | emptyArray hb => exact ⟨_, _, by decide, rfl⟩
  | array => exact ⟨_, _, by decide, rfl⟩
  | emptyObject hb => exact ⟨_, _, by decide, rfl⟩
  | object => exact ⟨_, _, by decide, rfl⟩

/-- No value begins with a blank, a closing bracket or a byte order mark. -/
theorem ne_of_start : ∀ c ∈ Text.ofString "\"[\x7bntfNI-0123456789",
    isSpace c = false ∧ c ≠ .scalar ']' ∧ c ≠ .scalar '\x7d' ∧ c ≠ .scalar '\uFEFF' := by
  decide

theorem skipSpace_start {b t : Text} (hb : Blank b) (ht : Starts t) (rest : Text) :
    skipSpace (b ++ (t ++ rest)) = t ++ rest := by
  obtain ⟨c, more, hc, rfl⟩ := ht
  rw [skipSpace_blank hb, List.cons_append, skipSpace_cons (ne_of_start c hc).1]

theorem skipSpace_mark {b : Text} (hb : Blank b) {c : CodePoint} (hc : isSpace c = false)
    (rest : Text) : skipSpace (b ++ c :: rest) = c :: rest := by
  rw [skipSpace_blank hb, skipSpace_cons hc]

theorem stops_append {b : Text} (hb : Blank b) {c : CodePoint}
    (hc : c ∈ Text.ofString ",]\x7d") (rest : Text) : Stops (b ++ c :: rest) := by
  have hblank : ∀ c ∈ Text.ofString " \t\n\r", c ∈ Text.ofString " \t\n\r,]\x7d" := by decide
  have hmark : ∀ c ∈ Text.ofString ",]\x7d", c ∈ Text.ofString " \t\n\r,]\x7d" := by decide
  intro d hd
  cases b with
  | nil =>
    obtain rfl := Option.some.inj hd
    exact hmark c hc
  | cons a b =>
    obtain rfl := Option.some.inj hd
    exact hblank a (hb a List.mem_cons_self)

theorem mark_comma : CodePoint.scalar ',' ∈ Text.ofString ",]\x7d" := by decide

theorem mark_bracket : CodePoint.scalar ']' ∈ Text.ofString ",]\x7d" := by decide

theorem mark_brace : CodePoint.scalar '\x7d' ∈ Text.ofString ",]\x7d" := by decide

theorem join_comma (t u : Text) (ts : List Text) :
    Text.join "," (t :: u :: ts) = t ++ .scalar ',' :: Text.join "," (u :: ts) := by
  rw [Text.join_cons_cons, List.append_assoc]
  rfl

theorem comma_ne_nil : Text.ofString "," ≠ [] := by decide

theorem exists_join_eq_append (t : Text) (ts : List Text) : ∃ u, Text.join "," (t :: ts) = t ++ u := by
  cases ts with
  | nil => exact ⟨[], by simp⟩
  | cons u ts => exact ⟨_, join_comma t u ts⟩

theorem length_le_length_join_of_mem {ts : List Text} {t : Text} (h : t ∈ ts) :
    t.length ≤ (Text.join "," ts).length := by
  induction ts with
  | nil => contradiction
  | cons u ts ih =>
    cases ts with
    | nil =>
      obtain rfl := List.mem_singleton.mp h
      exact Nat.le_of_eq (congrArg List.length (Text.join_singleton "," t).symm)
    | cons v ts =>
      rw [join_comma, List.length_append, List.length_cons]
      rcases List.mem_cons.mp h with rfl | h
      · omega
      · have := ih h
        omega

/-- A value is read if it is not too deep. -/
def Yields (inner : Text → Except Trouble (Found Datum)) (t : Text) (d : Datum) : Prop :=
  ∀ rest, Stops rest →
    inner (t ++ rest) = .ok (d, rest) ∨ ∃ array, inner (t ++ rest) = .error (.tooDeep array)

section Inside

variable {inner : Text → Except Trouble (Found Datum)}

section Steps

variable {t b : Text} {d : Datum}

theorem elements_last (hb : Blank b) {rest : Text} (ht : inner t = .ok (d, b ++ .scalar ']' :: rest))
    (fuel : Nat) (found : List Datum) :
    elements inner (fuel + 1) found t = .ok (.list (d :: found).reverse, rest) := by
  rw [elements, ht]
  simp [bind, Except.bind, skipSpace_mark hb (c := .scalar ']') rfl rest]

theorem elements_more (hb : Blank b) {more : Text} (ht : inner t = .ok (d, b ++ .scalar ',' :: more))
    (fuel : Nat) (found : List Datum) :
    elements inner (fuel + 1) found t = elements inner fuel (d :: found) (skipSpace more) := by
  rw [elements, ht]
  simp [bind, Except.bind, skipSpace_mark hb (c := .scalar ',') rfl more]

theorem elements_deep {array : Bool} (ht : inner t = .error (.tooDeep array)) (fuel : Nat)
    (found : List Datum) : elements inner (fuel + 1) found t = .error (.tooDeep array) := by
  rw [elements, ht]
  rfl

end Steps

theorem skipSpace_element {i : Element} (hi : i.Spaced) (hstart : Starts i.text) (rest : Text) :
    skipSpace (i.whole ++ rest) = i.text ++ (i.after ++ rest) := by
  rw [Element.whole, List.append_assoc, List.append_assoc, skipSpace_start hi.1 hstart]

theorem starts_elements {is : List Element} (hne : is ≠ []) (hspaced : ∀ i ∈ is, i.Spaced)
    (hstarts : ∀ i ∈ is, Starts i.text) (rest : Text) :
    Starts (skipSpace (Text.join "," (is.map Element.whole) ++ rest)) := by
  obtain ⟨i, is, rfl⟩ := List.exists_cons_of_ne_nil hne
  obtain ⟨u, hu⟩ := exists_join_eq_append i.whole (is.map Element.whole)
  obtain ⟨c, more, hc, htext⟩ := hstarts i List.mem_cons_self
  rw [List.map_cons, hu, List.append_assoc,
    skipSpace_element (hspaced i List.mem_cons_self) ⟨c, more, hc, htext⟩, htext]
  exact ⟨c, _, hc, rfl⟩

theorem elements_of_spelled {is : List Element} (hne : is ≠ []) (hspaced : ∀ i ∈ is, i.Spaced)
    (hstarts : ∀ i ∈ is, Starts i.text) (hinner : ∀ i ∈ is, Yields inner i.text i.value)
    {fuel : Nat} (hfuel : is.length ≤ fuel) (found : List Datum) {t rest : Text}
    (ht : t = Text.join "," (is.map Element.whole) ++ .scalar ']' :: rest) :
    elements inner fuel found (skipSpace t) =
        .ok (.list (found.reverse ++ is.map Element.value), rest) ∨
      ∃ array, elements inner fuel found (skipSpace t) = .error (.tooDeep array) := by
  induction is generalizing fuel found t with
  | nil => contradiction
  | cons i is ih =>
    obtain ⟨fuel, rfl⟩ : ∃ n, fuel = n + 1 := Nat.exists_eq_add_one.mpr (by simp at hfuel; omega)
    obtain ⟨hi, hspaced⟩ := List.forall_mem_cons.mp hspaced
    obtain ⟨hstart, hstarts⟩ := List.forall_mem_cons.mp hstarts
    obtain ⟨hyields, hinner⟩ := List.forall_mem_cons.mp hinner
    cases is with
    | nil =>
      rw [List.map_singleton, Text.join_singleton] at ht
      rw [ht, skipSpace_element hi hstart]
      rcases hyields _ (stops_append hi.2 mark_bracket rest) with hok | ⟨array, hdeep⟩
      · left
        rw [elements_last hi.2 hok]
        simp
      · exact .inr ⟨array, elements_deep hdeep fuel found⟩
    | cons j is =>
      rw [List.map_cons, List.map_cons, join_comma, ← List.map_cons, List.append_assoc,
        List.cons_append] at ht
      rw [ht, skipSpace_element hi hstart]
      rcases hyields _ (stops_append hi.2 mark_comma _) with hok | ⟨array, hdeep⟩
      · rw [elements_more hi.2 hok]
        have hfuel' : (j :: is).length ≤ fuel := by simpa using hfuel
        have hmore := ih (by simp) hspaced hstarts hinner hfuel' (i.value :: found) rfl
        rwa [List.reverse_cons, List.append_assoc, List.singleton_append] at hmore
      · exact .inr ⟨array, elements_deep hdeep fuel found⟩

section Steps

variable {letters name after t b : Text} {d : Datum}

theorem stringBody_quoted (hl : Letters letters name) (start rest : Text) :
    stringBody start false [] (letters ++ .scalar '"' :: rest) = .ok (name, rest) := by
  simpa using stringBody_of_letters hl start false (by simp) [] rest

theorem quoted_append (letters rest : Text) :
    quoted letters ++ rest = .scalar '"' :: (letters ++ .scalar '"' :: rest) := by
  simp [quoted]

theorem members_last (hl : Letters letters name) (hafter : Blank after) (hb : Blank b) {rest : Text}
    (ht : inner (skipSpace t) = .ok (d, b ++ .scalar '\x7d' :: rest)) (fuel : Nat)
    (found : List (Datum × Datum)) :
    members inner (fuel + 1) found (quoted letters ++ (after ++ .scalar ':' :: t)) =
      .ok (.dict (Datum.assign (.text name) d found), rest) := by
  rw [quoted_append, members, stringBody_quoted hl]
  simp [bind, Except.bind, skipSpace_mark hafter (c := .scalar ':') rfl t, ht,
    skipSpace_mark hb (c := .scalar '\x7d') rfl rest]

theorem members_more (hl : Letters letters name) (hafter : Blank after) (hb : Blank b) {more : Text}
    (ht : inner (skipSpace t) = .ok (d, b ++ .scalar ',' :: more)) (fuel : Nat)
    (found : List (Datum × Datum)) :
    members inner (fuel + 1) found (quoted letters ++ (after ++ .scalar ':' :: t)) =
      members inner fuel (Datum.assign (.text name) d found) (skipSpace more) := by
  rw [quoted_append, members, stringBody_quoted hl]
  simp [bind, Except.bind, skipSpace_mark hafter (c := .scalar ':') rfl t, ht,
    skipSpace_mark hb (c := .scalar ',') rfl more]

theorem members_deep (hl : Letters letters name) (hafter : Blank after) {array : Bool}
    (ht : inner (skipSpace t) = .error (.tooDeep array)) (fuel : Nat)
    (found : List (Datum × Datum)) :
    members inner (fuel + 1) found (quoted letters ++ (after ++ .scalar ':' :: t)) =
      .error (.tooDeep array) := by
  rw [quoted_append, members, stringBody_quoted hl]
  simp [bind, Except.bind, skipSpace_mark hafter (c := .scalar ':') rfl t, ht]

end Steps

theorem skipSpace_member {m : Member} (hm : m.Spaced) (rest : Text) :
    skipSpace (m.whole ++ rest) =
      quoted m.letters ++ (m.after ++ .scalar ':' :: (m.element.whole ++ rest)) := by
  have hstart : Starts (quoted m.letters) := ⟨_, _, by decide, rfl⟩
  rw [Member.whole, List.append_assoc, List.append_assoc, List.append_assoc,
    skipSpace_start hm.1 hstart, List.cons_append]

theorem starts_members {ms : List Member} (hne : ms ≠ []) (hspaced : ∀ m ∈ ms, m.Spaced)
    (rest : Text) : Starts (skipSpace (Text.join "," (ms.map Member.whole) ++ rest)) := by
  obtain ⟨m, ms, rfl⟩ := List.exists_cons_of_ne_nil hne
  obtain ⟨u, hu⟩ := exists_join_eq_append m.whole (ms.map Member.whole)
  rw [List.map_cons, hu, List.append_assoc, skipSpace_member (hspaced m List.mem_cons_self)]
  exact ⟨_, _, by decide, rfl⟩

theorem members_of_spelled {ms : List Member} (hne : ms ≠ []) (hspaced : ∀ m ∈ ms, m.Spaced)
    (hnames : ∀ m ∈ ms, Letters m.letters m.name) (hstarts : ∀ m ∈ ms, Starts m.element.text)
    (hinner : ∀ m ∈ ms, Yields inner m.element.text m.element.value) {fuel : Nat}
    (hfuel : ms.length ≤ fuel) (found : List (Datum × Datum)) {t rest : Text}
    (ht : t = Text.join "," (ms.map Member.whole) ++ .scalar '\x7d' :: rest) :
    members inner fuel found (skipSpace t) =
        .ok (.dict ((ms.map Member.entry).foldl (fun es e => Datum.assign e.1 e.2 es) found), rest) ∨
      ∃ array, members inner fuel found (skipSpace t) = .error (.tooDeep array) := by
  induction ms generalizing fuel found t with
  | nil => contradiction
  | cons m ms ih =>
    obtain ⟨fuel, rfl⟩ : ∃ n, fuel = n + 1 := Nat.exists_eq_add_one.mpr (by simp at hfuel; omega)
    obtain ⟨hm, hspaced⟩ := List.forall_mem_cons.mp hspaced
    obtain ⟨hname, hnames⟩ := List.forall_mem_cons.mp hnames
    obtain ⟨hstart, hstarts⟩ := List.forall_mem_cons.mp hstarts
    obtain ⟨hyields, hinner⟩ := List.forall_mem_cons.mp hinner
    cases ms with
    | nil =>
      rw [List.map_singleton, Text.join_singleton] at ht
      rw [ht, skipSpace_member hm]
      rcases hyields _ (stops_append hm.2.2.2 mark_brace rest) with hok | ⟨array, hdeep⟩
      · rw [← skipSpace_element hm.2.2 hstart] at hok
        exact .inl (members_last hname hm.2.1 hm.2.2.2 hok fuel found)
      · rw [← skipSpace_element hm.2.2 hstart] at hdeep
        exact .inr ⟨array, members_deep hname hm.2.1 hdeep fuel found⟩
    | cons m' ms =>
      rw [List.map_cons, List.map_cons, join_comma, ← List.map_cons, List.append_assoc,
        List.cons_append] at ht
      rw [ht, skipSpace_member hm]
      rcases hyields _ (stops_append hm.2.2.2 mark_comma _) with hok | ⟨array, hdeep⟩
      · rw [← skipSpace_element hm.2.2 hstart] at hok
        rw [members_more hname hm.2.1 hm.2.2.2 hok]
        have hfuel' : (m' :: ms).length ≤ fuel := by simpa using hfuel
        exact ih (by simp) hspaced hnames hstarts hinner hfuel' _ rfl
      · rw [← skipSpace_element hm.2.2 hstart] at hdeep
        exact .inr ⟨array, members_deep hname hm.2.1 hdeep fuel found⟩

end Inside

section Values

variable {fuel : Nat} {inner : Option (Text → Except Trouble (Found Datum))} {rest : Text} {d : Datum}

/-- Anything but a string, an array or an object is a word or a number. -/
theorem valueWith_token {c : CodePoint} (hq : c ≠ .scalar '"') (ha : c ≠ .scalar '[')
    (ho : c ≠ .scalar '\x7b') (more : Text) :
    valueWith fuel inner (c :: more) =
      match word? (c :: more) with
      | some found => .ok found
      | none =>
        if c = .scalar '-' then number (c :: more) true more
        else number (c :: more) false (c :: more) := by
  unfold valueWith
  split
  · next heq => exact absurd (List.cons.inj heq).1 hq
  · next heq => exact absurd (List.cons.inj heq).1 ha
  · next heq => exact absurd (List.cons.inj heq).1 ho
  · cases word? (c :: more) with
    | some found => rfl
    | none =>
      dsimp only
      split
      · next heq =>
        obtain ⟨rfl, rfl⟩ := List.cons.inj heq
        rw [if_pos rfl]
      · next hsign => rw [if_neg fun hc => hsign more (by rw [hc])]

theorem valueWith_word {t : Text} (h : Word t d) :
    valueWith fuel inner (t ++ rest) = .ok (d, rest) := by
  have hword := word?_append h rest
  obtain ⟨c, more, hc, hq, ha, ho⟩ : ∃ c more, t ++ rest = c :: more ∧ c ≠ .scalar '"' ∧
      c ≠ .scalar '[' ∧ c ≠ .scalar '\x7b' := by
    cases h <;> exact ⟨_, _, rfl, by decide, by decide, by decide⟩
  rw [hc] at hword ⊢
  rw [valueWith_token hq ha ho, hword]

theorem valueWith_number {t : Text} (h : Number t d) (hrest : Stops rest) :
    valueWith fuel inner (t ++ rest) = .ok (d, rest) := by
  obtain ⟨negative, body, rfl, ⟨c, more, hc, rfl⟩, hnumber⟩ := number_of_spelled h hrest
  obtain ⟨hunsigned, hsigned⟩ := word?_of_digit hc (more ++ rest)
  cases negative with
  | true =>
    change valueWith fuel inner (.scalar '-' :: .scalar c :: (more ++ rest)) = _
    rw [valueWith_token (by decide) (by decide) (by decide), hsigned]
    exact hnumber _
  | false =>
    obtain ⟨hq, ha, ho, hminus⟩ : c ≠ '"' ∧ c ≠ '[' ∧ c ≠ '\x7b' ∧ c ≠ '-' :=
      forall_digit (p := fun c => c ≠ '"' ∧ c ≠ '[' ∧ c ≠ '\x7b' ∧ c ≠ '-') (by decide) hc
    change valueWith fuel inner (.scalar c :: (more ++ rest)) = _
    rw [valueWith_token (by simpa using hq) (by simpa using ha) (by simpa using ho), hunsigned]
    dsimp only
    rw [if_neg (by simpa using hminus)]
    exact hnumber _

theorem valueWith_string {t s : Text} (h : Letters t s) :
    valueWith fuel inner (quoted t ++ rest) = .ok (.text s, rest) := by
  rw [quoted_append, valueWith, stringBody_quoted h]
  rfl

end Values

section Brackets

variable {inner : Text → Except Trouble (Found Datum)} {fuel : Nat} {t rest : Text}

theorem valueWith_emptyArray {b : Text} (hb : Blank b) :
    valueWith fuel (some inner) (.scalar '[' :: (b ++ .scalar ']' :: rest)) =
      .ok (.list [], rest) := by
  rw [valueWith, skipSpace_mark hb rfl]
  rfl

theorem valueWith_array (h : Starts (skipSpace t)) :
    valueWith fuel (some inner) (.scalar '[' :: t) = elements inner fuel [] (skipSpace t) := by
  obtain ⟨c, more, hc, hskip⟩ := h
  rw [valueWith]
  split
  · next heq =>
    rw [hskip] at heq
    exact absurd (List.cons.inj heq).1 (ne_of_start c hc).2.1
  · rfl

theorem valueWith_emptyObject {b : Text} (hb : Blank b) :
    valueWith fuel (some inner) (.scalar '\x7b' :: (b ++ .scalar '\x7d' :: rest)) =
      .ok (.dict [], rest) := by
  rw [valueWith, skipSpace_mark hb rfl]
  rfl

theorem valueWith_object (h : Starts (skipSpace t)) :
    valueWith fuel (some inner) (.scalar '\x7b' :: t) = members inner fuel [] (skipSpace t) := by
  obtain ⟨c, more, hc, hskip⟩ := h
  rw [valueWith]
  split
  · next heq =>
    rw [hskip] at heq
    exact absurd (List.cons.inj heq).1 (ne_of_start c hc).2.2.1
  · rfl

theorem yields_array {is : List Element} (hne : is ≠ []) (hspaced : ∀ i ∈ is, i.Spaced)
    (hstarts : ∀ i ∈ is, Starts i.text) (hinner : ∀ i ∈ is, Yields inner i.text i.value)
    (hfuel : (Text.join "," (is.map Element.whole)).length + 1 < fuel) :
    Yields (valueWith fuel (some inner))
      (.scalar '[' :: (Text.join "," (is.map Element.whole) ++ [.scalar ']']))
      (.list (is.map Element.value)) := by
  intro rest _
  have hcount := Text.length_le_length_join comma_ne_nil (is.map Element.whole)
  rw [List.length_map] at hcount
  rw [List.cons_append, List.append_assoc, valueWith_array (starts_elements hne hspaced hstarts _)]
  exact elements_of_spelled hne hspaced hstarts hinner (by omega) [] rfl

theorem yields_object {ms : List Member} (hne : ms ≠ []) (hspaced : ∀ m ∈ ms, m.Spaced)
    (hnames : ∀ m ∈ ms, Letters m.letters m.name) (hstarts : ∀ m ∈ ms, Starts m.element.text)
    (hinner : ∀ m ∈ ms, Yields inner m.element.text m.element.value)
    (hfuel : (Text.join "," (ms.map Member.whole)).length + 1 < fuel) :
    Yields (valueWith fuel (some inner))
      (.scalar '\x7b' :: (Text.join "," (ms.map Member.whole) ++ [.scalar '\x7d']))
      (.dict (Datum.ofPairs (ms.map Member.entry))) := by
  intro rest _
  have hcount := Text.length_le_length_join comma_ne_nil (ms.map Member.whole)
  rw [List.length_map] at hcount
  rw [List.cons_append, List.append_assoc, valueWith_object (starts_members hne hspaced _)]
  exact members_of_spelled hne hspaced hnames hstarts hinner (by omega) [] rfl

end Brackets

theorem yields_of_spells {t : Text} {d : Datum} (h : Spells t d) {fuel : Nat}
    (hfuel : t.length ≤ fuel) (depth : Nat) : Yields (value fuel depth) t d := by
  induction h generalizing depth with
  | word h =>
    intro rest _
    cases depth <;> exact .inl (valueWith_word h)
  | number h =>
    intro rest hrest
    cases depth <;> exact .inl (valueWith_number h hrest)
  | string h =>
    intro rest _
    cases depth <;> exact .inl (valueWith_string h)
  | @emptyArray b hb =>
    intro rest _
    cases depth with
    | zero => exact .inr ⟨true, rfl⟩
    | succ depth =>
      rw [List.cons_append, List.append_assoc]
      exact .inl (valueWith_emptyArray hb)
  | @array is hne hspaced h ih =>
    intro rest hrest
    cases depth with
    | zero => exact .inr ⟨true, rfl⟩
    | succ depth =>
      have hlength : (Text.join "," (is.map Element.whole)).length + 1 < fuel := by
        simp only [List.length_cons, List.length_append, List.length_nil] at hfuel
        omega
      refine yields_array hne hspaced (fun i hi => (h i hi).starts) (fun i hi => ?_) hlength rest hrest
      have hmem := length_le_length_join_of_mem (List.mem_map_of_mem (f := Element.whole) hi)
      simp only [Element.whole, List.length_append] at hmem
      exact ih i hi (by omega) depth
  | @emptyObject b hb =>
    intro rest _
    cases depth with
    | zero => exact .inr ⟨false, rfl⟩
    | succ depth =>
      rw [List.cons_append, List.append_assoc]
      exact .inl (valueWith_emptyObject hb)
  | @object ms hne hspaced hnames h ih =>
    intro rest hrest
    cases depth with
    | zero => exact .inr ⟨false, rfl⟩
    | succ depth =>
      have hlength : (Text.join "," (ms.map Member.whole)).length + 1 < fuel := by
        simp only [List.length_cons, List.length_append, List.length_nil] at hfuel
        omega
      refine yields_object hne hspaced hnames (fun m hm => (h m hm).starts) (fun m hm => ?_) hlength
        rest hrest
      have hmem := length_le_length_join_of_mem (List.mem_map_of_mem (f := Member.whole) hm)
      simp only [Member.whole, Element.whole, List.length_append, List.length_cons] at hmem
      exact ih m hm (by omega) depth

end LiveConsole.Json
