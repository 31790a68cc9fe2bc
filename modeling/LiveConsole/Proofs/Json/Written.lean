import LiveConsole.Json.Writer
import LiveConsole.Proofs.Text.Transcoding

/-!
# Written objects as octets

An object is written without control characters. Where its octets have question marks for lone halves,
they are those of the object with question marks.
-/

namespace LiveConsole
set_option autoImplicit false

namespace Json

def Scalar.soften : Scalar → Scalar
  | .text t => .text t.soften
  | .flag b => .flag b

def softenMember (m : Text × Scalar) : Text × Scalar := (m.1.soften, m.2.soften)

theorem soften_escape (c : CodePoint) : (escape c).soften = escape c.soften := by
  cases c with
  | scalar c => exact Text.soften_ofChars (escapeChar c)
  | lone half => rfl

theorem soften_writeString (t : Text) : (writeString t).soften = writeString t.soften := by
  have hbody : Text.soften (t.flatMap escape) = t.soften.flatMap escape := by
    simp only [Text.soften, List.map_flatMap, List.flatMap_map]
    congr 1
    funext c
    exact soften_escape c
  have hquote : Text.soften [.scalar '"'] = [.scalar '"'] := rfl
  rw [writeString, ← List.singleton_append, Text.soften_append, Text.soften_append, hbody, hquote]
  rfl

theorem soften_write (v : Scalar) : v.write.soften = v.soften.write := by
  cases v with
  | text t => exact soften_writeString t
  | flag b => cases b <;> rfl

theorem soften_writeMember (m : Text × Scalar) :
    (writeMember m).soften = writeMember (softenMember m) := by
  rw [writeMember, Text.soften_append, Text.soften_append, soften_writeString, soften_write,
    Text.soften_ofString]
  rfl

theorem soften_join (separator : String) (ts : List Text) :
    (Text.join separator ts).soften = Text.join separator (ts.map Text.soften) := by
  induction ts with
  | nil => rfl
  | cons t ts ih =>
    cases ts with
    | nil => simp
    | cons u us =>
      rw [Text.join_cons_cons, Text.soften_append, Text.soften_append, ih]
      simp [Text.join_cons_cons]

/-- Encoding an object and encoding its members come to the same. -/
theorem soften_writeObject (ms : List (Text × Scalar)) :
    (writeObject ms).soften = writeObject (ms.map softenMember) := by
  rw [writeObject, Text.soften_append, Text.soften_append, soften_join, Text.soften_ofString,
    Text.soften_ofString, List.map_map, writeObject, List.map_map]
  congr 3
  exact List.map_congr_left fun m _ => soften_writeMember m

theorem le_toNat_digitChar : ∀ n < 16, 0x20 ≤ (Nat.digitChar n).toNat := by
  decide

theorem le_toNat_of_mem_escapeChar {c d : Char} (h : d ∈ escapeChar c) : 0x20 ≤ d.toNat := by
  have hpair {a b : Char} (ha : 0x20 ≤ a.toNat) (hb : 0x20 ≤ b.toNat) (h : d ∈ [a, b]) :
      0x20 ≤ d.toNat := by
    simp only [List.mem_cons, List.not_mem_nil, or_false] at h
    rcases h with rfl | rfl
    · exact ha
    · exact hb
  unfold escapeChar at h
  split at h
  · exact hpair (by decide) (by decide) h
  · exact hpair (by decide) (by decide) h
  · exact hpair (by decide) (by decide) h
  · exact hpair (by decide) (by decide) h
  · exact hpair (by decide) (by decide) h
  · exact hpair (by decide) (by decide) h
  · exact hpair (by decide) (by decide) h
  · split at h
    · next hlt =>
      simp only [List.mem_cons, List.not_mem_nil, or_false] at h
      rcases h with rfl | rfl | rfl | rfl | rfl | rfl
      · decide
      · decide
      · decide
      · decide
      · exact le_toNat_digitChar _ (by omega)
      · exact le_toNat_digitChar _ (by omega)
    · next hge =>
      obtain rfl := List.mem_singleton.mp h
      exact Nat.le_of_not_lt hge

/-- Nothing but printable characters and what lies above them. -/
def Clear (t : Text) : Prop := ∀ c ∈ t, 0x20 ≤ c.value

theorem Clear.append {s t : Text} (hs : Clear s) (ht : Clear t) : Clear (s ++ t) := by
  intro c hc
  rcases List.mem_append.mp hc with hc | hc
  · exact hs c hc
  · exact ht c hc

theorem clear_escape (c : CodePoint) : Clear (escape c) := by
  intro d hd
  cases c with
  | scalar c =>
    obtain ⟨e, he, rfl⟩ := List.mem_map.mp hd
    exact le_toNat_of_mem_escapeChar he
  | lone half =>
    obtain rfl := List.mem_singleton.mp hd
    exact Nat.le_trans (by decide) (CodePoint.value_lone_mem half).1

theorem clear_writeString (t : Text) : Clear (writeString t) := by
  intro d hd
  rcases List.mem_cons.mp hd with rfl | hd
  · decide
  rcases List.mem_append.mp hd with hd | hd
  · obtain ⟨c, _, hc⟩ := List.mem_flatMap.mp hd
    exact clear_escape c d hc
  · obtain rfl := List.mem_singleton.mp hd
    decide

theorem clear_write (v : Scalar) : Clear v.write := by
  cases v with
  | text t => exact clear_writeString t
  | flag b =>
    unfold Clear
    cases b <;> decide

theorem clear_writeMember (m : Text × Scalar) : Clear (writeMember m) := by
  have hcolon : Clear (Text.ofString ":") := by
    unfold Clear
    decide
  exact ((clear_writeString m.1).append hcolon).append (clear_write m.2)

theorem clear_join {separator : Text} (hs : Clear separator) {ts : List Text}
    (ht : ∀ t ∈ ts, Clear t) : Clear (Text.join separator ts) := by
  induction ts with
  | nil => exact fun c hc => absurd hc (by simp [Text.join])
  | cons t ts ih =>
    have hhead := ht t List.mem_cons_self
    cases ts with
    | nil => simpa using hhead
    | cons u us =>
      rw [Text.join_cons_cons]
      exact (hhead.append hs).append (ih fun x hx => ht x (List.mem_cons_of_mem t hx))

/-- A written object has no control characters, and so no line break. -/
theorem clear_writeObject (ms : List (Text × Scalar)) : Clear (writeObject ms) := by
  have hmark (s : String) (h : ∀ c ∈ Text.ofString s, 0x20 ≤ c.value) : Clear s := h
  have hmembers : Clear (Text.join "," (ms.map writeMember)) := by
    refine clear_join (hmark "," (by decide)) ?_
    intro t ht
    obtain ⟨m, _, rfl⟩ := List.mem_map.mp ht
    exact clear_writeMember m
  exact ((hmark _ (by decide)).append hmembers).append (hmark _ (by decide))

end Json
end LiveConsole
