/-!
# Texts

A `Text` is a list of code points. Most code points are characters; the halves of surrogate
pairs may also stand alone, since peers can spell them in escapes. The order of texts is the
order of their code points.
-/

set_option autoImplicit false

namespace LiveConsole

/-- A character, or half of a surrogate pair that stands alone. -/
inductive CodePoint where
  | scalar (c : Char)
  | lone (half : Fin 2048)
deriving DecidableEq, Inhabited

namespace CodePoint

/-- Its number in the code space. -/
def value : CodePoint → Nat
  | .scalar c => c.toNat
  | .lone half => 0xD800 + half.val

/-- The code point of a number; numbers beyond the code space give the replacement character. -/
def ofNat (n : Nat) : CodePoint :=
  if h : 0xD800 ≤ n ∧ n < 0xD800 + 2048 then .lone ⟨n - 0xD800, by omega⟩
  else if n < 0x110000 then .scalar (Char.ofNat n)
  else .scalar (Char.ofNat 0xFFFD)

def isLone : CodePoint → Bool
  | .scalar _ => false
  | .lone _ => true

@[simp] theorem isLone_scalar (c : Char) : (scalar c).isLone = false := rfl

@[simp] theorem isLone_lone (half : Fin 2048) : (lone half).isLone = true := rfl

/-- Lone halves fill the gap that characters leave, so the numbering is faithful. -/
theorem value_lone_mem (half : Fin 2048) :
    0xD800 ≤ (lone half).value ∧ (lone half).value < 0xE000 := by
  have := half.isLt
  simp only [value]
  omega

end CodePoint

abbrev Text := List CodePoint

namespace Text

def ofString (s : String) : Text :=
  s.toList.map .scalar

def ofChars (cs : List Char) : Text :=
  cs.map .scalar

def ofChar (c : Char) : Text :=
  [.scalar c]

def ofNat (n : Nat) : Text :=
  ofString (toString n)

instance : Coe String Text where
  coe := ofString

/-- The characters of a text that has no lone half. -/
def chars? (t : Text) : Option (List Char) :=
  t.mapM fun
    | .scalar c => some c
    | .lone _ => none

/-- The string of a text, each lone half shown as a question mark. -/
def toString (t : Text) : String :=
  String.ofList (t.map fun
    | .scalar c => c
    | .lone _ => '?')

/-- Lexicographic order by code point. -/
def less : Text → Text → Bool
  | _, [] => false
  | [], _ :: _ => true
  | a :: s, b :: t => a.value < b.value || (a.value == b.value && less s t)

/-- Insertion into an ascending list, equal texts kept once. -/
def insertSorted (t : Text) : List Text → List Text
  | [] => [t]
  | u :: us => if t = u then u :: us else if less t u then t :: u :: us else u :: insertSorted t us

/-- The distinct members in ascending order. -/
def sortDistinct (ts : List Text) : List Text :=
  ts.foldr insertSorted []

theorem mem_insertSorted {s t : Text} {ts : List Text} :
    s ∈ insertSorted t ts ↔ s = t ∨ s ∈ ts := by
  induction ts with
  | nil => simp [insertSorted]
  | cons u us ih =>
    by_cases htu : t = u
    · simp [insertSorted, htu]
    · by_cases hlt : less t u
      · simp [insertSorted, htu, hlt]
      · simp only [insertSorted, htu, hlt, if_false, Bool.false_eq_true, List.mem_cons, ih]
        constructor <;> rintro (h | h | h) <;> simp [h]

theorem mem_sortDistinct {s : Text} {ts : List Text} : s ∈ sortDistinct ts ↔ s ∈ ts := by
  induction ts with
  | nil => simp [sortDistinct]
  | cons t ts ih =>
    rw [List.mem_cons, ← ih]
    exact mem_insertSorted

/-- The members with a separator between neighbours. -/
def join (separator : Text) (ts : List Text) : Text :=
  List.intercalate separator ts

@[simp] theorem join_singleton (separator t : Text) : join separator [t] = t := by
  simp [join, List.intercalate]

theorem join_cons_cons (separator t u : Text) (ts : List Text) :
    join separator (t :: u :: ts) = t ++ separator ++ join separator (u :: ts) := by
  simp [join, List.intercalate]

theorem length_le_length_join {separator : Text} (h : separator ≠ []) (ts : List Text) :
    ts.length ≤ (join separator ts).length + 1 := by
  have hlength := List.length_pos_iff.mpr h
  induction ts with
  | nil => exact Nat.zero_le _
  | cons t ts ih =>
    cases ts with
    | nil => exact Nat.le_add_left 1 _
    | cons u ts =>
      rw [join_cons_cons, List.length_append, List.length_append]
      simp only [List.length_cons] at ih ⊢
      omega

/-- Lower-case hexadecimal, padded with zeros to a width. -/
def hexadecimal (width n : Nat) : Text :=
  let digits := ofChars (Nat.toDigits 16 n)
  ofString (String.ofList (List.replicate (width - digits.length) '0')) ++ digits

end Text

end LiveConsole
