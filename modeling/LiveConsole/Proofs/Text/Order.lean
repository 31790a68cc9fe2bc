import LiveConsole.Text.CodePoint
import Mathlib.Data.List.Lex

/-!
# The order of texts

Texts are ordered as the lists of their code points are, so sorting distinct texts puts them in strictly
ascending order.
-/

namespace LiveConsole
set_option autoImplicit false

namespace CodePoint

/-- Characters leave out the numbers of the halves that stand alone. -/
theorem value_scalar_ne (c : Char) (half : Fin 2048) : (scalar c).value ≠ (lone half).value := by
  have hhalf := value_lone_mem half
  rcases c.valid with hc | ⟨hc, -⟩
  · change c.toNat < 0xD800 at hc
    exact Nat.ne_of_lt (Nat.lt_of_lt_of_le hc hhalf.1)
  · change 0xDFFF < c.toNat at hc
    exact Nat.ne_of_gt (Nat.lt_of_lt_of_le hhalf.2 hc)

theorem value_injective : Function.Injective value := by
  intro a b h
  cases a with
  | scalar c =>
    cases b with
    | scalar d => rw [Char.toNat_inj.mp h]
    | lone half => exact absurd h (value_scalar_ne c half)
  | lone half =>
    cases b with
    | scalar d => exact absurd h.symm (value_scalar_ne d half)
    | lone other => rw [Fin.ext (Nat.add_left_cancel h)]

end CodePoint

namespace Text

theorem less_iff (s t : Text) :
    less s t = true ↔ s.map CodePoint.value < t.map CodePoint.value := by
  induction s generalizing t with
  | nil =>
    cases t with
    | nil => simp [less]
    | cons b t => simp [less]
  | cons a s ih =>
    cases t with
    | nil => simp [less]
    | cons b t => simp [less, ih, List.cons_lt_cons_iff]

theorem less_trans {s t u : Text} (hst : less s t = true) (htu : less t u = true) :
    less s u = true := by
  rw [less_iff] at *
  exact hst.trans htu

theorem less_of_not_less {s t : Text} (hne : s ≠ t) (h : less s t = false) : less t s = true := by
  have hle : ¬s.map CodePoint.value < t.map CodePoint.value := by
    rw [← less_iff, h]
    exact Bool.false_ne_true
  have hmap : s.map CodePoint.value ≠ t.map CodePoint.value :=
    (List.map_injective_iff.mpr CodePoint.value_injective).ne hne
  exact (less_iff t s).mpr (lt_of_le_of_ne (not_lt.mp hle) hmap.symm)

/-- Each text comes before all that follow it. -/
def Ascending (ts : List Text) : Prop := ts.Pairwise fun s t => less s t = true

theorem ascending_insertSorted {t : Text} {ts : List Text} (h : Ascending ts) :
    Ascending (insertSorted t ts) := by
  induction ts with
  | nil => exact List.pairwise_singleton _ t
  | cons u us ih =>
    obtain ⟨hu, hus⟩ := List.pairwise_cons.mp h
    by_cases htu : t = u
    · rw [insertSorted, if_pos htu]
      exact h
    · rw [insertSorted, if_neg htu]
      cases hless : less t u with
      | true =>
        rw [if_pos rfl]
        refine List.pairwise_cons.mpr ⟨?_, h⟩
        intro v hv
        rcases List.mem_cons.mp hv with rfl | hv
        · exact hless
        · exact less_trans hless (hu v hv)
      | false =>
        rw [if_neg Bool.false_ne_true]
        refine List.pairwise_cons.mpr ⟨?_, ih hus⟩
        intro v hv
        rcases mem_insertSorted.mp hv with rfl | hv
        · exact less_of_not_less htu hless
        · exact hu v hv

theorem ascending_sortDistinct (ts : List Text) : Ascending (sortDistinct ts) := by
  induction ts with
  | nil => exact .nil
  | cons t ts ih => exact ascending_insertSorted ih

end Text
end LiveConsole
