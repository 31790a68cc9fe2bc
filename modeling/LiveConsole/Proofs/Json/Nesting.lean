import LiveConsole.Json.Reader

/-!
# How deep texts nest

Brackets outside of strings open and close levels. The reader opens a level for each bracket that it
reads, so it goes no deeper than the text does, and it gives up for the depth of a text only if the text
nests deeper than the limit.
-/

namespace LiveConsole.Json
set_option autoImplicit false

def opens (c : CodePoint) : Bool := c = .scalar '[' || c = .scalar '{'

def closes (c : CodePoint) : Bool := c = .scalar ']' || c = .scalar '}'

/-- The deepest level that a text reaches from a place at a certain level on. In a string, brackets
are characters like any other. -/
def deepest : (level : Nat) → (quoted : Bool) → Text → Nat
  | level, _, [] => level
  | level, true, [_] => level
  | level, true, c :: next :: rest =>
    if c = .scalar '\\' then deepest level true rest
    else deepest level (c ≠ .scalar '"') (next :: rest)
  | level, false, c :: rest =>
    if c = .scalar '"' then deepest level true rest
    else if opens c then deepest (level + 1) false rest
    else if closes c then max level (deepest (level - 1) false rest)
    else deepest level false rest

/-- How deep a text nests. -/
def nesting (t : Text) : Nat := deepest 0 false t

theorem le_deepest (level : Nat) (quoted : Bool) (t : Text) : level ≤ deepest level quoted t := by
  fun_induction deepest level quoted t with
  | case1 => exact Nat.le_refl _
  | case2 => exact Nat.le_refl _
  | case3 => assumption
  | case4 => assumption
  | case5 => assumption
  | case6 => omega
  | case7 => exact Nat.le_max_left _ _
  | case8 => assumption

/-- Neither a quote nor a bracket. -/
def isPlain (c : CodePoint) : Bool := c ≠ .scalar '"' && !opens c && !closes c

theorem deepest_plain {c : CodePoint} (hc : isPlain c = true) (level : Nat) (rest : Text) :
    deepest level false (c :: rest) = deepest level false rest := by
  simp only [isPlain, Bool.and_eq_true, Bool.not_eq_true', decide_eq_true_eq] at hc
  obtain ⟨⟨hq, ho⟩, hcl⟩ := hc
  rw [deepest, if_neg hq, if_neg (by simp [ho]), if_neg (by simp [hcl])]

theorem deepest_append {used : Text} (hused : ∀ c ∈ used, isPlain c = true) (level : Nat)
    (rest : Text) : deepest level false (used ++ rest) = deepest level false rest := by
  induction used with
  | nil => rfl
  | cons c used ih =>
    rw [List.cons_append, deepest_plain (hused c List.mem_cons_self)]
    exact ih fun d hd => hused d (List.mem_cons_of_mem c hd)

theorem deepest_quote (level : Nat) (rest : Text) :
    deepest level false (.scalar '"' :: rest) = deepest level true rest := by
  rw [deepest, if_pos rfl]

theorem deepest_open {c : CodePoint} (hc : opens c = true) (level : Nat) (rest : Text) :
    deepest level false (c :: rest) = deepest (level + 1) false rest := by
  have hq : c ≠ .scalar '"' := by
    rintro rfl
    contradiction
  rw [deepest, if_neg hq, if_pos hc]

theorem deepest_close {c : CodePoint} (hc : closes c = true) (level : Nat) (rest : Text) :
    deepest level false (c :: rest) = max level (deepest (level - 1) false rest) := by
  have hq : c ≠ .scalar '"' := by
    rintro rfl
    contradiction
  have ho : ¬opens c = true := by
    intro ho
    simp only [opens, closes, Bool.or_eq_true, decide_eq_true_eq] at ho hc
    rcases ho with rfl | rfl <;> simp at hc
  rw [deepest, if_neg hq, if_neg ho, if_pos hc]

theorem isPlain_of_isSpace {c : CodePoint} (hc : isSpace c = true) : isPlain c = true := by
  cases c with
  | lone half => contradiction
  | scalar c =>
    simp only [isSpace, Bool.or_eq_true, decide_eq_true_eq] at hc
    rcases hc with ((rfl | rfl) | rfl) | rfl <;> rfl

theorem deepest_skipSpace (level : Nat) (t : Text) :
    deepest level false (skipSpace t) = deepest level false t := by
  have hspaces : ∀ c ∈ t.takeWhile isSpace, isPlain c = true := by
    intro c hc
    exact isPlain_of_isSpace (List.all_eq_true.mp List.all_takeWhile c hc)
  calc deepest level false (skipSpace t)
      = deepest level false (t.takeWhile isSpace ++ skipSpace t) :=
        (deepest_append hspaces level _).symm
    _ = deepest level false t := by rw [skipSpace, List.takeWhile_append_dropWhile]

theorem deepest_quoted {c : CodePoint} (hq : c ≠ .scalar '"') (hb : c ≠ .scalar '\\')
    (level : Nat) (rest : Text) : deepest level true (c :: rest) = deepest level true rest := by
  cases rest with
  | nil => rfl
  | cons next rest =>
    rw [deepest, if_neg hb, decide_eq_true hq]

theorem deepest_escape (level : Nat) (c : CodePoint) (rest : Text) :
    deepest level true (.scalar '\\' :: c :: rest) = deepest level true rest := by
  rw [deepest, if_pos rfl]

theorem deepest_unquote (level : Nat) (rest : Text) :
    deepest level true (.scalar '"' :: rest) = deepest level false rest := by
  cases rest with
  | nil => rfl
  | cons next rest =>
    rw [deepest, if_neg (by decide)]
    rfl

theorem ne_of_hexDigit? {c : CodePoint} {n : Nat} (h : hexDigit? c = some n) :
    c ≠ .scalar '"' ∧ c ≠ .scalar '\\' := by
  constructor
  · rintro rfl
    contradiction
  · rintro rfl
    contradiction

theorem deepest_hexNumber? {a b c d : CodePoint} {n : Nat} (h : hexNumber? a b c d = some n)
    (level : Nat) (rest : Text) :
    deepest level true (a :: b :: c :: d :: rest) = deepest level true rest := by
  simp only [hexNumber?, Option.bind_eq_bind, Option.bind_eq_some_iff] at h
  obtain ⟨_, ha, _, hb, _, hc, _, hd, _⟩ := h
  rw [deepest_quoted (ne_of_hexDigit? ha).1 (ne_of_hexDigit? ha).2,
    deepest_quoted (ne_of_hexDigit? hb).1 (ne_of_hexDigit? hb).2,
    deepest_quoted (ne_of_hexDigit? hc).1 (ne_of_hexDigit? hc).2,
    deepest_quoted (ne_of_hexDigit? hd).1 (ne_of_hexDigit? hd).2]

theorem ne_backslash {c : CodePoint} {rest : Text} (hnil : c = .scalar '\\' → rest = [] → False)
    (hscalar : ∀ d more, c = .scalar '\\' → rest = .scalar d :: more → False)
    (hlone : ∀ half more, c = .scalar '\\' → rest = .lone half :: more → False) :
    c ≠ .scalar '\\' := by
  intro hc
  rcases rest with _ | ⟨d | half, more⟩
  · exact hnil hc rfl
  · exact hscalar d more hc rfl
  · exact hlone half more hc rfl

theorem deepest_stringBody {start : Text} {afterHigh : Bool} {found t s rest : Text}
    (h : stringBody start afterHigh found t = .ok (s, rest)) (level : Nat) :
    deepest level true t = deepest level false rest := by
  fun_induction stringBody start afterHigh found t with
  | case1 => contradiction
  | case2 =>
    obtain ⟨_, rfl⟩ := Prod.mk.inj (Except.ok.inj h)
    exact deepest_unquote level _
  | case3 => contradiction
  | case4 _ _ a b c d next more n hn ih =>
    rw [deepest_escape, deepest_hexNumber? hn]
    exact ih h
  | case5 => contradiction
  | case6 => contradiction
  | case7 _ _ c rest _ e _ ih =>
    rw [deepest_escape]
    exact ih h
  | case8 => contradiction
  | case9 => contradiction
  | case10 => contradiction
  | case11 _ _ c rest hq hnil _ hscalar hlone _ ih =>
    rw [deepest_quoted hq (ne_backslash hnil hscalar hlone)]
    exact ih h

theorem stringBody_ne_tooDeep (start : Text) (afterHigh : Bool) (found t : Text) (array : Bool) :
    stringBody start afterHigh found t ≠ .error (.tooDeep array) := by
  intro h
  fun_induction stringBody start afterHigh found t with
  | case4 _ _ _ _ _ _ _ _ _ _ ih => exact ih h
  | case7 _ _ _ _ _ _ _ ih => exact ih h
  | case11 _ _ _ _ _ _ _ _ _ _ ih => exact ih h
  | _ => simp at h

/-- Between two places of a text there is neither a quote nor a bracket. -/
def Level (t rest : Text) : Prop := ∀ level, deepest level false rest = deepest level false t

theorem Level.trans {t u rest : Text} (h : Level t u) (h' : Level u rest) : Level t rest :=
  fun level => (h' level).trans (h level)

theorem isPlain_of_digit? {c : CodePoint} {d : Char} (h : digit? c = some d) : isPlain c = true := by
  cases c with
  | lone half => contradiction
  | scalar c =>
    have hc : c.isDigit = true := by
      rw [digit?] at h
      split at h
      · assumption
      · contradiction
    simp only [isPlain, opens, closes, Bool.and_eq_true, Bool.not_eq_true', Bool.or_eq_false_iff,
      decide_eq_true_eq, decide_eq_false_iff_not, CodePoint.scalar.injEq, ne_eq]
    refine ⟨⟨?_, ?_, ?_⟩, ?_, ?_⟩ <;> (rintro rfl; contradiction)

theorem level_takeDigits (found : List Char) (t : Text) : Level t (takeDigits found t).2 := by
  fun_induction takeDigits found t with
  | case1 => exact fun _ => rfl
  | case2 found c rest d hd ih =>
    intro level
    rw [ih level, deepest_plain (isPlain_of_digit? hd)]
  | case3 => exact fun _ => rfl

theorem level_fraction? {t rest : Text} {ds : List Char} (h : fraction? t = some (ds, rest)) :
    Level t rest := by
  unfold fraction? at h
  split at h
  · next body =>
    have hdigits := level_takeDigits [] body
    split at h
    · contradiction
    · intro level
      rw [Option.some.inj h] at hdigits
      rw [hdigits level]
      exact (deepest_plain rfl level body).symm
  · contradiction

theorem level_sign {t digits : Text} {negative : Bool} (h : (match t with
    | .scalar '-' :: r => (true, r)
    | .scalar '+' :: r => (false, r)
    | r => (false, r)) = (negative, digits)) : Level t digits := by
  split at h
  · obtain ⟨_, rfl⟩ := Prod.mk.inj h
    exact fun level => (deepest_plain rfl level _).symm
  · obtain ⟨_, rfl⟩ := Prod.mk.inj h
    exact fun level => (deepest_plain rfl level _).symm
  · obtain ⟨_, rfl⟩ := Prod.mk.inj h
    exact fun _ => rfl

theorem level_exponent? {t rest : Text} {n : Int} (h : exponent? t = some (n, rest)) :
    Level t rest := by
  unfold exponent? at h
  split at h
  · next c body =>
    split at h
    · next hc =>
      have hmark : isPlain (.scalar c) = true := by
        rcases hc with rfl | rfl <;> rfl
      split at h
      next negative digits hmatch =>
      have hsign : Level body digits := level_sign hmatch
      have hdigits := level_takeDigits [] digits
      split at h
      · contradiction
      · next ds after _ hds =>
        obtain ⟨_, rfl⟩ := Prod.mk.inj (Option.some.inj h)
        rw [hds] at hdigits
        intro level
        rw [hdigits level, hsign level, deepest_plain hmark]
    · contradiction
  · contradiction

theorem level_whole {t after : Text} {ds : List Char} (h : (match t with
    | .scalar '0' :: rest => (['0'], rest)
    | _ => takeDigits [] t) = (ds, after)) : Level t after := by
  split at h
  · obtain ⟨_, rfl⟩ := Prod.mk.inj h
    exact fun level => (deepest_plain rfl level _).symm
  · have hdigits := level_takeDigits [] t
    rw [h] at hdigits
    exact hdigits

theorem level_fraction (t : Text) : Level t ((fraction? t).getD ([], t)).2 := by
  cases h : fraction? t with
  | none => exact fun _ => rfl
  | some found => exact level_fraction? h

theorem level_exponent (t : Text) : Level t (((exponent? t).map Prod.snd).getD t) := by
  cases h : exponent? t with
  | none => exact fun _ => rfl
  | some found => exact level_exponent? h

theorem level_number {start body rest : Text} {negative : Bool} {d : Datum}
    (h : number start negative body = .ok (d, rest)) : Level body rest := by
  unfold number at h
  dsimp only at h
  split at h
  · contradiction
  · next ds afterWhole _ hmatch =>
    have hwhole : Level body afterWhole := level_whole hmatch
    split at h
    · split at h
      · contradiction
      · obtain ⟨_, rfl⟩ := Prod.mk.inj (Except.ok.inj h)
        exact hwhole
    · obtain ⟨_, rfl⟩ := Prod.mk.inj (Except.ok.inj h)
      exact hwhole.trans ((level_fraction afterWhole).trans (level_exponent _))

theorem number_ne_tooDeep (start : Text) (negative : Bool) (body : Text) (array : Bool) :
    number start negative body ≠ .error (.tooDeep array) := by
  intro h
  unfold number at h
  dsimp only at h
  split at h
  · simp at h
  · split at h
    · split at h
      · simp at h
      · contradiction
    · contradiction

theorem isPlain_of_mem_words :
    ∀ w ∈ words, ∀ c ∈ Text.ofString w.1, isPlain c = true := by
  intro w hw
  have hnames : ∀ s ∈ words.map Prod.fst, ∀ c ∈ Text.ofString s, isPlain c = true := by
    decide
  exact hnames w.1 (List.mem_map_of_mem hw)

theorem level_word? {t rest : Text} {d : Datum} (h : word? t = some (d, rest)) : Level t rest := by
  obtain ⟨⟨w, v⟩, hw, h⟩ := List.exists_of_findSome?_eq_some h
  dsimp only at h
  split at h
  · next hprefix =>
    obtain ⟨after, rfl⟩ := List.isPrefixOf_iff_prefix.mp hprefix
    rw [List.drop_left] at h
    obtain ⟨_, rfl⟩ := Prod.mk.inj (Option.some.inj h)
    exact fun level => (deepest_append (isPlain_of_mem_words _ hw) level _).symm
  · contradiction

/-- What reading says of the levels of a text. It began `inside` levels further in than it ended, and
with `spare` levels that could still be opened. -/
def Bounds (inside spare : Nat) (t : Text) : Except Trouble (Found Datum) → Prop
  | .ok (_, rest) => ∀ level, deepest level false rest ≤ deepest (level + inside) false t
  | .error (.tooDeep _) => ∀ level, level + inside + spare < deepest (level + inside) false t
  | .error _ => True

theorem Bounds.mono {inside spare : Nat} {t u : Text} {r : Except Trouble (Found Datum)}
    (h : Bounds inside spare u r)
    (hle : ∀ level, deepest (level + inside) false u ≤ deepest (level + inside) false t) :
    Bounds inside spare t r := by
  rcases r with e | ⟨d, rest⟩
  · cases e with
    | tooDeep array => exact fun level => Nat.lt_of_lt_of_le (h level) (hle level)
    | malformed _ _ => trivial
    | tooLong _ => trivial
  · exact fun level => Nat.le_trans (h level) (hle level)

/-- Behind a mark and the blanks around it, the levels are those in front of it. -/
theorem level_skipSpace {c : CodePoint} (hc : isPlain c = true) {t after : Text}
    (h : skipSpace t = c :: after) : Level t (skipSpace after) := by
  intro level
  rw [deepest_skipSpace, ← deepest_plain hc level after, ← h, deepest_skipSpace]

/-- A bracket that closes what was opened in front of a text. -/
theorem deepest_le_of_close {c : CodePoint} (hc : closes c = true) {t rest after : Text}
    (hrest : ∀ level, deepest level false rest ≤ deepest level false t)
    (h : skipSpace rest = c :: after) (level : Nat) :
    deepest level false after ≤ deepest (level + 1) false t := by
  have hclose := hrest (level + 1)
  rw [← deepest_skipSpace, h, deepest_close hc] at hclose
  exact Nat.le_trans (Nat.le_max_right _ _) hclose

theorem Bounds.of_error {inside spare : Nat} {t : Text} {e : Trouble}
    (h : ∀ array, e ≠ .tooDeep array) : Bounds inside spare t (.error e) := by
  cases e with
  | tooDeep array => exact absurd rfl (h array)
  | malformed _ _ => trivial
  | tooLong _ => trivial

/-- What was too deep outside is too deep one level further in. -/
theorem Bounds.error_inside {spare : Nat} {t : Text} {e : Trouble}
    (h : Bounds 0 spare t (.error e)) : Bounds 1 spare t (.error e) := by
  cases e with
  | tooDeep array => exact fun level => h (level + 1)
  | malformed _ _ => trivial
  | tooLong _ => trivial

theorem bounds_number (start : Text) (negative : Bool) (body : Text) (spare : Nat) :
    Bounds 0 spare body (number start negative body) := by
  rcases hn : number start negative body with e | ⟨d, rest⟩
  · exact .of_error fun array he => number_ne_tooDeep start negative body array (he ▸ hn)
  · exact fun level => Nat.le_of_eq (level_number hn level)

section Inside
variable {inner : Text → Except Trouble (Found Datum)} {spare : Nat}
variable (hinner : ∀ t, Bounds 0 spare t (inner t))
include hinner

theorem bounds_elements (fuel : Nat) (found : List Datum) (t : Text) :
    Bounds 1 spare t (elements inner fuel found t) := by
  induction fuel generalizing found t with
  | zero => trivial
  | succ fuel ih =>
    have ht := hinner t
    rw [elements]
    rcases hr : inner t with e | ⟨d, rest⟩
    · rw [hr] at ht
      exact ht.error_inside
    · rw [hr] at ht
      simp only [bind, Except.bind]
      split
      · next after hafter => exact deepest_le_of_close rfl ht hafter
      · next after hafter =>
        refine (ih (d :: found) (skipSpace after)).mono ?_
        intro level
        rw [level_skipSpace rfl hafter (level + 1)]
        exact ht (level + 1)
      · trivial

theorem bounds_members (fuel : Nat) (found : List (Datum × Datum)) (t : Text) :
    Bounds 1 spare t (members inner fuel found t) := by
  induction fuel generalizing found t with
  | zero => trivial
  | succ fuel ih =>
    rw [members.eq_def]
    dsimp only
    split
    · next body =>
      rcases hname : stringBody (.scalar '"' :: body) false [] body with e | ⟨name, rest⟩
      · exact .of_error fun array he => stringBody_ne_tooDeep _ _ _ _ array (he ▸ hname)
      · simp only [bind, Except.bind]
        split
        · next after hafter =>
          have hcolon : Level (.scalar '"' :: body) (skipSpace after) := by
            intro level
            rw [deepest_quote, deepest_stringBody hname]
            exact level_skipSpace rfl hafter level
          have hvalue := (hinner (skipSpace after)).mono fun level => Nat.le_of_eq (hcolon level)
          rcases hr : inner (skipSpace after) with e | ⟨d, rest⟩
          · rw [hr] at hvalue
            exact hvalue.error_inside
          · rw [hr] at hvalue
            dsimp only
            split
            · next after hafter => exact deepest_le_of_close rfl hvalue hafter
            · next after hafter =>
              refine (ih _ (skipSpace after)).mono ?_
              intro level
              rw [level_skipSpace rfl hafter (level + 1)]
              exact hvalue (level + 1)
            · trivial
        · trivial
    · trivial

end Inside

/-- A reader for what is inside brackets, with its levels; without one there are none. -/
inductive Reads : Nat → Option (Text → Except Trouble (Found Datum)) → Prop where
  | nothing : Reads 0 none
  | inside {spare : Nat} {inner : Text → Except Trouble (Found Datum)}
      (h : ∀ t, Bounds 0 spare t (inner t)) : Reads (spare + 1) (some inner)

theorem Bounds.of_opened {c : CodePoint} (hc : opens c = true) (t : Text) {array : Bool} :
    Bounds 0 0 (c :: t) (.error (.tooDeep array)) := by
  intro level
  rw [Nat.add_zero, deepest_open hc]
  exact le_deepest (level + 1) false t

theorem bounds_closed {c : CodePoint} (hc : closes c = true) {spare : Nat} {t rest : Text}
    (h : skipSpace t = c :: rest) (d : Datum) : Bounds 1 spare (skipSpace t) (.ok (d, rest)) :=
  deepest_le_of_close hc (fun level => Nat.le_of_eq (deepest_skipSpace level t).symm) h

theorem Bounds.of_open {c : CodePoint} (hc : opens c = true) {spare : Nat} (t : Text)
    {r : Except Trouble (Found Datum)} (h : Bounds 1 spare (skipSpace t) r) :
    Bounds 0 (spare + 1) (c :: t) r := by
  have hopen (level : Nat) :
      deepest level false (c :: t) = deepest (level + 1) false (skipSpace t) := by
    rw [deepest_open hc, deepest_skipSpace]
  rcases r with e | ⟨d, after⟩
  · cases e with
    | tooDeep array =>
      intro level
      have hlt := h level
      rw [Nat.add_zero, hopen]
      omega
    | malformed _ _ => trivial
    | tooLong _ => trivial
  · intro level
    rw [Nat.add_zero, hopen]
    exact h level

theorem bounds_valueWith (fuel : Nat) {spare : Nat}
    {inner : Option (Text → Except Trouble (Found Datum))} (hinner : Reads spare inner) (t : Text) :
    Bounds 0 spare t (valueWith fuel inner t) := by
  unfold valueWith
  split
  · next body =>
    rcases hs : stringBody (.scalar '"' :: body) false [] body with e | ⟨s, rest⟩
    · exact .of_error fun array he => stringBody_ne_tooDeep _ _ _ _ array (he ▸ hs)
    · intro level
      rw [Nat.add_zero, deepest_quote]
      exact Nat.le_of_eq (deepest_stringBody hs level).symm
  · next body =>
    cases hinner with
    | nothing => exact .of_opened rfl body
    | inside h =>
      dsimp only
      split
      · next rest hrest => exact .of_open rfl body (bounds_closed rfl hrest _)
      · exact .of_open rfl body (bounds_elements h fuel [] _)
  · next body =>
    cases hinner with
    | nothing => exact .of_opened rfl body
    | inside h =>
      dsimp only
      split
      · next rest hrest => exact .of_open rfl body (bounds_closed rfl hrest _)
      · exact .of_open rfl body (bounds_members h fuel [] _)
  · split
    · next found hword => exact fun level => Nat.le_of_eq (level_word? hword level)
    · split
      · refine (bounds_number _ true _ spare).mono ?_
        exact fun level => Nat.le_of_eq (deepest_plain rfl _ _).symm
      · exact bounds_number t false t spare

theorem bounds_value (fuel depth : Nat) (t : Text) : Bounds 0 depth t (value fuel depth t) := by
  induction depth generalizing t with
  | zero => exact bounds_valueWith fuel .nothing t
  | succ depth ih => exact bounds_valueWith fuel (.inside ih) t

/-- Only what nests deeper than there is room for is too deep to be read. -/
theorem room_lt_nesting {room : Nat} {t : Text} {array : Bool}
    (h : read room t = .error (.tooDeep array)) : room + 1 < nesting t := by
  unfold read at h
  rcases hd : document room t with e | d
  · rw [hd] at h
    cases e with
    | malformed _ _ => simp [Trouble.problem, locate] at h
    | tooLong _ => simp [Trouble.problem] at h
    | tooDeep array =>
      unfold document at hd
      split at hd
      · simp at hd
      · have hbounds := bounds_value (t.length + 1) (room + 1) (skipSpace t)
        rcases hv : value (t.length + 1) (room + 1) (skipSpace t) with e | ⟨d, rest⟩
        · rw [hv] at hd hbounds
          obtain rfl := Except.error.inj hd
          have hlt := hbounds 0
          rwa [deepest_skipSpace, Nat.zero_add, Nat.zero_add] at hlt
        · rw [hv] at hd
          simp only [bind, Except.bind] at hd
          split at hd <;> simp at hd
  · rw [hd] at h
    contradiction

theorem valueWith_bracket {inner : Text → Except Trouble (Found Datum)} {body : Text}
    {trouble : Trouble} (h : inner (.scalar '[' :: body) = .error trouble) (fuel : Nat) :
    valueWith (fuel + 1) (some inner) (.scalar '[' :: .scalar '[' :: body) = .error trouble := by
  change elements inner (fuel + 1) [] (.scalar '[' :: body) = .error trouble
  rw [elements, h]
  rfl

/-- One bracket more than there are levels is too deep, whatever follows it. -/
theorem value_brackets (fuel depth : Nat) (rest : Text) :
    value (fuel + 1) depth (List.replicate (depth + 1) (.scalar '[') ++ rest) =
      .error (.tooDeep true) := by
  induction depth with
  | zero => rfl
  | succ depth ih => exact valueWith_bracket ih fuel

theorem read_brackets (room : Nat) (rest : Text) :
    read room (List.replicate (room + 2) (.scalar '[') ++ rest) = .error (.tooDeep true) := by
  have hvalue (fuel : Nat) := value_brackets fuel (room + 1) rest
  rw [List.replicate_succ, List.cons_append] at hvalue ⊢
  generalize List.replicate (room + 1) (CodePoint.scalar '[') ++ rest = body at hvalue ⊢
  have hskip : skipSpace (.scalar '[' :: body) = .scalar '[' :: body := rfl
  have hdocument : document room (.scalar '[' :: body) = .error (.tooDeep true) := by
    simp only [document, hskip, hvalue]
    rfl
  rw [read, hdocument]
  rfl

end LiveConsole.Json
