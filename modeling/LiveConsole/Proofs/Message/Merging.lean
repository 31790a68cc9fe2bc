import LiveConsole.Message
import Mathlib.Data.List.Basic
import Mathlib.Data.List.Induction

/-!
# Merging names

What assigning members one by one comes to: each name stands where it stood first and has the value
that it had last. The lists here are small enough to be compared as a whole, so the two sides are
equal lists and not only equal look-ups.
-/

namespace LiveConsole.Message
set_option autoImplicit false

/-- The distinct names in the order of their first places, each with its last value. -/
def merged (ms : List (Text × Json.Scalar)) : List (Text × Json.Scalar) :=
  (ms.map Prod.fst).eraseDups.filterMap fun name => (ms.reverse.lookup name).map (name, ·)

theorem nodup_eraseDups (names : List Text) : names.eraseDups.Nodup := by
  cases names with
  | nil => exact List.nodup_nil
  | cons name rest =>
    rw [List.eraseDups_cons, List.nodup_cons]
    refine ⟨?_, nodup_eraseDups _⟩
    intro hmem
    have hkept := List.mem_eraseDups.mp hmem
    simp at hkept
termination_by names.length
decreasing_by
  have := List.length_filter_le (fun x => !x == name) rest
  simp only [List.length_cons]
  omega

theorem eraseDups_append_singleton (names : List Text) (name : Text) :
    (names ++ [name]).eraseDups =
      if name ∈ names then names.eraseDups else names.eraseDups ++ [name] := by
  rw [List.eraseDups_append]
  split
  · next h => simp [List.removeAll, h]
  · next h => simp [List.removeAll, h, List.eraseDups_cons]

/-- Assigning a name to a list that holds each of `names` once. -/
theorem assign_filterMap {names : List Text} (hnodup : names.Nodup) (value : Text → Option Json.Scalar)
    (hvalue : ∀ n ∈ names, (value n).isSome) (name : Text) (v : Json.Scalar) :
    assign name v (names.filterMap fun n => (value n).map (n, ·)) =
      (if name ∈ names then names else names ++ [name]).filterMap fun n =>
        (if n = name then some v else value n).map (n, ·) := by
  induction names with
  | nil => simp [assign]
  | cons n ns ih =>
    obtain ⟨hn, hns⟩ := List.nodup_cons.mp hnodup
    obtain ⟨u, hu⟩ := Option.isSome_iff_exists.mp (hvalue n List.mem_cons_self)
    by_cases h : n = name
    · subst h
      have hrest : (ns.filterMap fun m => (if m = n then some v else value m).map (m, ·)) =
          ns.filterMap fun m => (value m).map (m, ·) := by
        refine List.filterMap_congr fun m hm => ?_
        have hne : m ≠ n := fun he => hn (he ▸ hm)
        rw [if_neg hne]
      simp [assign, hu, hrest]
    · have htail := ih hns fun m hm => hvalue m (List.mem_cons_of_mem n hm)
      have hmem : (name ∈ n :: ns) ↔ name ∈ ns := by
        simp [List.mem_cons, Ne.symm h]
      simp only [List.filterMap_cons, hu, Option.map_some, assign, if_neg h, htail, hmem]
      split <;> simp [hu, h]

theorem isSome_lookup_reverse {ms : List (Text × Json.Scalar)} {name : Text}
    (h : name ∈ ms.map Prod.fst) : (ms.reverse.lookup name).isSome := by
  obtain ⟨m, hm, rfl⟩ := List.mem_map.mp h
  rw [List.lookup_isSome_iff]
  exact ⟨m, List.mem_reverse.mpr hm, by simp⟩

theorem merged_append_singleton (ms : List (Text × Json.Scalar)) (name : Text) (v : Json.Scalar) :
    merged (ms ++ [(name, v)]) = assign name v (merged ms) := by
  have hassign := assign_filterMap (nodup_eraseDups (ms.map Prod.fst)) (ms.reverse.lookup ·)
    (fun n hn => isSome_lookup_reverse (List.mem_eraseDups.mp hn)) name v
  have hlookup (n : Text) : (ms ++ [(name, v)]).reverse.lookup n =
      if n = name then some v else ms.reverse.lookup n := by
    by_cases h : n = name
    · simp [h]
    · have hne : (n == name) = false := beq_false_of_ne h
      simp [List.lookup_cons, h, hne]
  unfold merged
  rw [hassign, List.map_append, List.map_singleton, eraseDups_append_singleton]
  simp only [List.mem_eraseDups, hlookup]

/-- Assigning members one by one merges them. -/
theorem foldl_assign (ms : List (Text × Json.Scalar)) :
    ms.foldl (fun found (n, v) => assign n v found) [] = merged ms := by
  induction ms using List.reverseRecOn with
  | nil => rfl
  | append_singleton ms m ih =>
    rw [List.foldl_append, ih, List.foldl_cons, List.foldl_nil]
    exact (merged_append_singleton ms m.1 m.2).symm

theorem map_fst_merged (ms : List (Text × Json.Scalar)) :
    (merged ms).map Prod.fst = (ms.map Prod.fst).eraseDups := by
  have hkept : ∀ name ∈ (ms.map Prod.fst).eraseDups,
      ((ms.reverse.lookup name).map (name, ·)).map Prod.fst = some name := by
    intro name hname
    obtain ⟨v, hv⟩ :=
      Option.isSome_iff_exists.mp (isSome_lookup_reverse (List.mem_eraseDups.mp hname))
    simp [hv]
  rw [merged, List.map_filterMap, List.filterMap_congr hkept, List.filterMap_some]

theorem nodup_merged (ms : List (Text × Json.Scalar)) : ((merged ms).map Prod.fst).Nodup := by
  rw [map_fst_merged]
  exact nodup_eraseDups _

theorem assign_of_not_mem {name : Text} {ms : List (Text × Json.Scalar)}
    (h : name ∉ ms.map Prod.fst) (v : Json.Scalar) : assign name v ms = ms ++ [(name, v)] := by
  induction ms with
  | nil => rfl
  | cons m ms ih =>
    rw [List.map_cons, List.mem_cons, not_or] at h
    rw [assign, if_neg (Ne.symm h.1), ih h.2]
    rfl

/-- A message in which each name stands once is its own merging. -/
theorem merged_of_nodup {ms : List (Text × Json.Scalar)} (h : (ms.map Prod.fst).Nodup) :
    merged ms = ms := by
  induction ms using List.reverseRecOn with
  | nil => rfl
  | append_singleton ms m ih =>
    rw [List.map_append, List.map_singleton, List.nodup_append] at h
    obtain ⟨hms, _, hnew⟩ := h
    have hm : m.1 ∉ ms.map Prod.fst := fun hmem => hnew _ hmem _ List.mem_cons_self rfl
    rw [merged_append_singleton ms m.1 m.2, ih hms]
    exact assign_of_not_mem hm m.2

end LiveConsole.Message
