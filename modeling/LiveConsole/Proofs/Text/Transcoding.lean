import LiveConsole.Text.Utf8

/-!
# Encoding and decoding a text

A text that is encoded and decoded again is the text itself, save that a question mark stands for
each lone half. The decoder is back between characters after each encoded character, so the run over
a whole text is the run over its characters one by one.
-/

namespace LiveConsole
set_option autoImplicit false

namespace CodePoint

/-- The character that is written for a code point. -/
def written : CodePoint → Char
  | .scalar c => c
  | .lone _ => '?'

/-- What is left of a code point once it has been encoded. -/
def soften (c : CodePoint) : CodePoint := .scalar c.written

@[simp] theorem soften_scalar (c : Char) : soften (.scalar c) = .scalar c := rfl

theorem soften_of_not_isLone {c : CodePoint} (h : c.isLone = false) : c.soften = c := by
  cases c with
  | scalar c => rfl
  | lone half => simp at h

end CodePoint

namespace Text

def soften (t : Text) : Text := t.map CodePoint.soften

/-- No half of a surrogate pair stands alone. -/
def Whole (t : Text) : Prop := ∀ c ∈ t, c.isLone = false

@[simp] theorem soften_append (s t : Text) : soften (s ++ t) = soften s ++ soften t :=
  List.map_append

@[simp] theorem soften_ofChars (cs : List Char) : soften (ofChars cs) = ofChars cs := by
  simp [soften, ofChars]

@[simp] theorem soften_ofString (s : String) : soften (ofString s) = ofString s := by
  simp [soften, ofString]

theorem soften_of_whole {t : Text} (h : Whole t) : soften t = t := by
  induction t with
  | nil => rfl
  | cons c cs ih =>
    have hc := CodePoint.soften_of_not_isLone (h c List.mem_cons_self)
    have hcs := ih fun d hd => h d (List.mem_cons_of_mem c hd)
    simpa [soften, hc] using hcs

end Text

namespace Utf8

theorem toNat_ofNat {n : Nat} (h : n < 256) : (UInt8.ofNat n).toNat = n := by
  simp [Nat.mod_eq_of_lt h]

theorem begin_ascii {octet : UInt8} (h : octet.toNat < 0x80) :
    begin octet = ([.character (Char.ofNat octet.toNat)], .ready) := by
  simp [begin, h]

theorem begin_two {octet : UInt8} (hl : 0xC2 ≤ octet.toNat) (hh : octet.toNat < 0xE0) :
    begin octet = ([], .within 1 0x80 0xBF (octet.toNat - 0xC0) [octet]) := by
  unfold begin
  dsimp only
  rw [if_neg (by omega), if_neg (by omega), if_pos hh]

/-- The second octet of three shuts out what two octets can say, and the halves of pairs. -/
theorem begin_three {octet : UInt8} (hl : 0xE0 ≤ octet.toNat) (hh : octet.toNat < 0xF0) :
    begin octet = ([], .within 2 (if octet.toNat = 0xE0 then 0xA0 else 0x80)
      (if octet.toNat = 0xED then 0x9F else 0xBF) (octet.toNat - 0xE0) [octet]) := by
  unfold begin
  dsimp only
  rw [if_neg (by omega), if_neg (by omega), if_neg (by omega)]
  by_cases h0 : octet.toNat = 0xE0
  · simp [h0]
  by_cases hd : octet.toNat = 0xED
  · simp [hd]
  · rw [if_neg h0, if_neg hd, if_pos hh, if_neg h0, if_neg hd]

/-- The second octet of four shuts out what three octets can say, and what no octets can. -/
theorem begin_four {octet : UInt8} (hl : 0xF0 ≤ octet.toNat) (hh : octet.toNat ≤ 0xF4) :
    begin octet = ([], .within 3 (if octet.toNat = 0xF0 then 0x90 else 0x80)
      (if octet.toNat = 0xF4 then 0x8F else 0xBF) (octet.toNat - 0xF0) [octet]) := by
  unfold begin
  dsimp only
  rw [if_neg (by omega), if_neg (by omega), if_neg (by omega), if_neg (by omega),
    if_neg (by omega), if_neg (by omega)]
  by_cases h0 : octet.toNat = 0xF0
  · simp [h0]
  by_cases h4 : octet.toNat = 0xF4
  · simp [h4]
  · rw [if_neg h0, if_pos (by omega), if_neg h0, if_neg h4]

theorem step_last {octet : UInt8} {low high value : Nat} {seen : List UInt8}
    (hl : low ≤ octet.toNat) (hh : octet.toNat ≤ high) :
    step (.within 1 low high value seen) octet =
      ([.character (Char.ofNat (value * 64 + octet.toNat % 64))], .ready) := by
  simp [step, hl, hh]

theorem step_more {octet : UInt8} {need low high value : Nat} {seen : List UInt8}
    (hl : low ≤ octet.toNat) (hh : octet.toNat ≤ high) :
    step (.within (need + 2) low high value seen) octet =
      ([], .within (need + 1) 0x80 0xBF (value * 64 + octet.toNat % 64) (octet :: seen)) := by
  simp [step, hl, hh]

theorem advance_of_step {s t : State} {ps found : List Piece} {octet : UInt8}
    (h : step s octet = (ps, t)) : advance (s, found) octet = (t, ps.reverse ++ found) := by
  simp [advance, h]

theorem foldl_advance_two {a b : UInt8} (found : List Piece)
    (ha : 0xC2 ≤ a.toNat ∧ a.toNat < 0xE0) (hb : 0x80 ≤ b.toNat ∧ b.toNat ≤ 0xBF) :
    [a, b].foldl advance (.ready, found) =
      (.ready, .character (Char.ofNat ((a.toNat - 0xC0) * 64 + b.toNat % 64)) :: found) := by
  have h1 : step .ready a = _ := begin_two ha.1 ha.2
  simp only [List.foldl_cons, List.foldl_nil]
  rw [advance_of_step h1, advance_of_step (step_last hb.1 hb.2)]
  rfl

theorem foldl_advance_three {a b c : UInt8} (found : List Piece)
    (ha : 0xE0 ≤ a.toNat ∧ a.toNat < 0xF0)
    (hl : (if a.toNat = 0xE0 then 0xA0 else 0x80) ≤ b.toNat)
    (hh : b.toNat ≤ if a.toNat = 0xED then 0x9F else 0xBF)
    (hc : 0x80 ≤ c.toNat ∧ c.toNat ≤ 0xBF) :
    [a, b, c].foldl advance (.ready, found) =
      (.ready, .character (Char.ofNat
        (((a.toNat - 0xE0) * 64 + b.toNat % 64) * 64 + c.toNat % 64)) :: found) := by
  have h1 : step .ready a = _ := begin_three ha.1 ha.2
  simp only [List.foldl_cons, List.foldl_nil]
  rw [advance_of_step h1, advance_of_step (step_more hl hh),
    advance_of_step (step_last hc.1 hc.2)]
  rfl

theorem foldl_advance_four {a b c d : UInt8} (found : List Piece)
    (ha : 0xF0 ≤ a.toNat ∧ a.toNat ≤ 0xF4)
    (hl : (if a.toNat = 0xF0 then 0x90 else 0x80) ≤ b.toNat)
    (hh : b.toNat ≤ if a.toNat = 0xF4 then 0x8F else 0xBF)
    (hc : 0x80 ≤ c.toNat ∧ c.toNat ≤ 0xBF) (hd : 0x80 ≤ d.toNat ∧ d.toNat ≤ 0xBF) :
    [a, b, c, d].foldl advance (.ready, found) =
      (.ready, .character (Char.ofNat
        ((((a.toNat - 0xF0) * 64 + b.toNat % 64) * 64 + c.toNat % 64) * 64 + d.toNat % 64))
          :: found) := by
  have h1 : step .ready a = _ := begin_four ha.1 ha.2
  simp only [List.foldl_cons, List.foldl_nil]
  rw [advance_of_step h1, advance_of_step (step_more hl hh),
    advance_of_step (step_more hc.1 hc.2), advance_of_step (step_last hd.1 hd.2)]
  rfl

/-- One character, whatever its length, leaves the decoder between characters. -/
theorem foldl_advance_ofChar (c : Char) (found : List Piece) :
    (ofChar c).foldl advance (.ready, found) = (.ready, .character c :: found) := by
  have hc : c.toNat < 0xD800 ∨ 0xDFFF < c.toNat ∧ c.toNat < 0x110000 := c.valid
  have hback : Char.ofNat c.toNat = c := Char.ofNat_toNat c
  unfold ofChar
  generalize c.toNat = v at hc hback
  dsimp only
  split
  · have h1 := toNat_ofNat (n := v) (by omega)
    have hs : step .ready (UInt8.ofNat v) = _ := begin_ascii (by omega)
    rw [List.foldl_cons, advance_of_step hs, h1, hback]
    rfl
  split
  · have h1 := toNat_ofNat (n := 0xC0 + v / 64) (by omega)
    have h2 := toNat_ofNat (n := 0x80 + v % 64) (by omega)
    have hv : (0xC0 + v / 64 - 0xC0) * 64 + (0x80 + v % 64) % 64 = v := by omega
    rw [foldl_advance_two found (by omega) (by omega), h1, h2, hv, hback]
  split
  · have h1 := toNat_ofNat (n := 0xE0 + v / 4096) (by omega)
    have h2 := toNat_ofNat (n := 0x80 + v / 64 % 64) (by omega)
    have h3 := toNat_ofNat (n := 0x80 + v % 64) (by omega)
    have hv : ((0xE0 + v / 4096 - 0xE0) * 64 + (0x80 + v / 64 % 64) % 64) * 64
        + (0x80 + v % 64) % 64 = v := by omega
    rw [foldl_advance_three found (by omega) (by rw [h1, h2]; split <;> omega)
      (by rw [h1, h2]; split <;> omega) (by omega), h1, h2, h3, hv, hback]
  · have h1 := toNat_ofNat (n := 0xF0 + v / 262144) (by omega)
    have h2 := toNat_ofNat (n := 0x80 + v / 4096 % 64) (by omega)
    have h3 := toNat_ofNat (n := 0x80 + v / 64 % 64) (by omega)
    have h4 := toNat_ofNat (n := 0x80 + v % 64) (by omega)
    have hv : (((0xF0 + v / 262144 - 0xF0) * 64 + (0x80 + v / 4096 % 64) % 64) * 64
        + (0x80 + v / 64 % 64) % 64) * 64 + (0x80 + v % 64) % 64 = v := by omega
    rw [foldl_advance_four found (by omega) (by rw [h1, h2]; split <;> omega)
      (by rw [h1, h2]; split <;> omega) (by omega) (by omega), h1, h2, h3, h4, hv, hback]

theorem encodeReplacing_eq_flatMap (t : Text) :
    encodeReplacing t = t.flatMap fun c => ofChar c.written := by
  unfold encodeReplacing
  congr 1
  funext c
  cases c <;> rfl

theorem foldl_advance_encodeReplacing (t : Text) (found : List Piece) :
    (encodeReplacing t).foldl advance (.ready, found) =
      (.ready, (t.map fun c => Piece.character c.written).reverse ++ found) := by
  rw [encodeReplacing_eq_flatMap]
  induction t generalizing found with
  | nil => rfl
  | cons c cs ih =>
    rw [List.flatMap_cons, List.foldl_append, foldl_advance_ofChar, ih]
    simp

theorem pieces_encodeReplacing (t : Text) :
    pieces (encodeReplacing t) = t.map fun c => Piece.character c.written := by
  simp [pieces, foldl_advance_encodeReplacing, finish]

theorem decodeReplacing_encodeReplacing (t : Text) :
    decodeReplacing (encodeReplacing t) = t.soften := by
  rw [decodeReplacing, pieces_encodeReplacing, List.map_map]
  rfl

theorem readStrict_characters (position : Nat) (found t : Text) :
    readStrict position found (t.map fun c => Piece.character c.written) =
      .ok (found.reverse ++ t.soften) := by
  induction t generalizing position found with
  | nil => simp [readStrict, Text.soften]
  | cons c cs ih =>
    rw [List.map_cons, readStrict, ih]
    simp [Text.soften, CodePoint.soften]

theorem decodeStrict_encodeReplacing (t : Text) :
    decodeStrict (encodeReplacing t) = .ok t.soften := by
  rw [decodeStrict, pieces_encodeReplacing, readStrict_characters]
  rfl

/-- All octets of a longer character are above the ASCII range. -/
theorem le_toNat_of_mem_ofChar {c : Char} {octet : UInt8} (hc : 0x20 ≤ c.toNat)
    (h : octet ∈ ofChar c) : 0x20 ≤ octet.toNat := by
  have hmax : c.toNat < 0xD800 ∨ 0xDFFF < c.toNat ∧ c.toNat < 0x110000 := c.valid
  unfold ofChar at h
  generalize c.toNat = v at h hc hmax
  dsimp only at h
  split at h
  · obtain rfl := List.mem_singleton.mp h
    rw [toNat_ofNat (by omega)]
    exact hc
  · have hbyte {n : Nat} (hl : 0x80 ≤ n) (hn : n < 256) : 0x20 ≤ (UInt8.ofNat n).toNat := by
      rw [toNat_ofNat hn]
      omega
    split at h
    · simp only [List.mem_cons, List.not_mem_nil, or_false] at h
      rcases h with rfl | rfl <;> exact hbyte (by omega) (by omega)
    split at h
    · simp only [List.mem_cons, List.not_mem_nil, or_false] at h
      rcases h with rfl | rfl | rfl <;> exact hbyte (by omega) (by omega)
    · simp only [List.mem_cons, List.not_mem_nil, or_false] at h
      rcases h with rfl | rfl | rfl | rfl <;> exact hbyte (by omega) (by omega)

/-- A text without control characters has no control octets either. -/
theorem le_toNat_of_mem_encodeReplacing {t : Text} (ht : ∀ c ∈ t, 0x20 ≤ c.value)
    {octet : UInt8} (h : octet ∈ encodeReplacing t) : 0x20 ≤ octet.toNat := by
  rw [encodeReplacing_eq_flatMap] at h
  obtain ⟨c, hc, ho⟩ := List.mem_flatMap.mp h
  refine le_toNat_of_mem_ofChar ?_ ho
  cases c with
  | scalar c => exact ht _ hc
  | lone half =>
    change 0x20 ≤ Char.toNat (Char.ofNat 0x3F)
    decide

end Utf8
end LiveConsole
