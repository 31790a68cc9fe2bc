import LiveConsole.Net.Line

/-!
# Frames of a stream

A stream of octets falls into the pieces that a newline ends and a remainder that none has ended yet.
Taking lines from a buffer takes these pieces in their order, whatever has still to arrive.
-/

namespace LiveConsole.Net
set_option autoImplicit false

def newline : UInt8 := 0x0A

/-- The pieces of a stream that a newline ends, without it. -/
def frames (stream : List UInt8) : List (List UInt8) := (stream.splitOn newline).dropLast

/-- What follows the last newline of a stream. -/
def remainder (stream : List UInt8) : List UInt8 :=
  (stream.splitOn newline).getLast (List.splitOn_ne_nil newline stream)

/-- The stream of pieces that are each ended by a newline. -/
def joined (ps : List (List UInt8)) : List UInt8 := ps.flatMap (· ++ [newline])

@[simp] theorem joined_nil : joined [] = [] := rfl

@[simp] theorem joined_cons (p : List UInt8) (ps : List (List UInt8)) :
    joined (p :: ps) = p ++ newline :: joined ps := by
  simp [joined]

@[simp] theorem joined_append (ps qs : List (List UInt8)) :
    joined (ps ++ qs) = joined ps ++ joined qs := by
  simp [joined]

theorem splitOn_joined_append {ps : List (List UInt8)} (hps : ∀ p ∈ ps, newline ∉ p)
    (rest : List UInt8) :
    (joined ps ++ rest).splitOn newline = ps ++ rest.splitOn newline := by
  induction ps with
  | nil => rfl
  | cons p ps ih =>
    have hp := hps p List.mem_cons_self
    have htail := ih fun q hq => hps q (List.mem_cons_of_mem p hq)
    rw [joined_cons, List.append_assoc, List.cons_append,
      List.splitOn_append_cons_self_of_not_mem hp, htail]
    rfl

theorem frames_joined_append {ps : List (List UInt8)} (hps : ∀ p ∈ ps, newline ∉ p)
    (rest : List UInt8) : frames (joined ps ++ rest) = ps ++ frames rest := by
  rw [frames, splitOn_joined_append hps,
    List.dropLast_append_of_ne_nil (List.splitOn_ne_nil newline rest), frames]

theorem frames_line {line : List UInt8} (hline : newline ∉ line) (rest : List UInt8) :
    frames (line ++ newline :: rest) = line :: frames rest := by
  have hwhole : ∀ p ∈ [line], newline ∉ p := by simpa using hline
  simpa using frames_joined_append hwhole rest

theorem remainder_joined_append {ps : List (List UInt8)} (hps : ∀ p ∈ ps, newline ∉ p)
    (rest : List UInt8) : remainder (joined ps ++ rest) = remainder rest := by
  simp only [remainder, splitOn_joined_append hps]
  exact List.getLast_append_of_ne_nil _ (List.splitOn_ne_nil newline rest)

theorem frames_of_not_mem {bs : List UInt8} (h : newline ∉ bs) : frames bs = [] := by
  rw [frames, List.splitOn_eq_singleton h]
  rfl

theorem remainder_of_not_mem {bs : List UInt8} (h : newline ∉ bs) : remainder bs = bs := by
  simp only [remainder, List.splitOn_eq_singleton h, List.getLast_singleton]

theorem frames_joined {ps : List (List UInt8)} (hps : ∀ p ∈ ps, newline ∉ p)
    {rest : List UInt8} (hrest : newline ∉ rest) : frames (joined ps ++ rest) = ps := by
  rw [frames_joined_append hps, frames_of_not_mem hrest, List.append_nil]

theorem remainder_joined {ps : List (List UInt8)} (hps : ∀ p ∈ ps, newline ∉ p)
    {rest : List UInt8} (hrest : newline ∉ rest) : remainder (joined ps ++ rest) = rest := by
  rw [remainder_joined_append hps, remainder_of_not_mem hrest]

/-- Every stream is made of its frames and its remainder. -/
theorem exists_eq_joined_append (stream : List UInt8) :
    ∃ ps rest, (∀ p ∈ ps, newline ∉ p) ∧ newline ∉ rest ∧ stream = joined ps ++ rest := by
  by_cases h : newline ∈ stream
  · obtain ⟨line, tail, hstream, hline⟩ := List.eq_append_cons_of_mem h
    have hlt : tail.length < stream.length := by
      rw [hstream, List.length_append, List.length_cons]
      omega
    obtain ⟨ps, rest, hps, hrest, htail⟩ := exists_eq_joined_append tail
    refine ⟨line :: ps, rest, ?_, hrest, by simp [hstream, htail]⟩
    intro p hp
    rcases List.mem_cons.mp hp with rfl | hp
    · exact hline
    · exact hps p hp
  · exact ⟨[], stream, by simp, h, rfl⟩
termination_by stream.length

/-- Whatever follows, the remainder begins one of the pieces. -/
theorem exists_remainder_prefix (stream more : List UInt8) :
    ∃ p ∈ (stream ++ more).splitOn newline, remainder stream <+: p := by
  obtain ⟨ps, rest, hps, hrest, rfl⟩ := exists_eq_joined_append stream
  rw [remainder_joined hps hrest, List.append_assoc, splitOn_joined_append hps]
  by_cases h : newline ∈ more
  · obtain ⟨mid, tail, rfl, hmid⟩ := List.eq_append_cons_of_mem h
    have hline : newline ∉ rest ++ mid := List.not_mem_append hrest hmid
    rw [← List.append_assoc, List.splitOn_append_cons_self_of_not_mem hline]
    exact ⟨rest ++ mid, by simp, List.prefix_append rest mid⟩
  · rw [List.splitOn_eq_singleton (List.not_mem_append hrest h)]
    exact ⟨rest ++ more, by simp, List.prefix_append rest more⟩

/-- Either a line is complete and is taken, or there is no newline at all. -/
theorem splitLine?_cases (buffer : List UInt8) :
    (newline ∉ buffer ∧ splitLine? buffer = none) ∨
    ∃ line rest, newline ∉ line ∧ buffer = line ++ newline :: rest ∧
      splitLine? buffer = some (line, rest) := by
  by_cases h : newline ∈ buffer
  · obtain ⟨line, rest, rfl, hline⟩ := List.eq_append_cons_of_mem h
    exact .inr ⟨line, rest, hline, rfl, splitLine?_append rest hline⟩
  · exact .inl ⟨h, splitLine?_of_not_mem h⟩

/-- A stream has one first line. -/
theorem line_inj {line line' rest rest' : List UInt8} (hline : newline ∉ line)
    (hline' : newline ∉ line') (h : line ++ newline :: rest = line' ++ newline :: rest') :
    line = line' ∧ rest = rest' := by
  have hsplit : splitLine? (line ++ newline :: rest) = some (line, rest) :=
    splitLine?_append rest hline
  have hsplit' : splitLine? (line' ++ newline :: rest') = some (line', rest') :=
    splitLine?_append rest' hline'
  rw [h, hsplit'] at hsplit
  obtain ⟨rfl, rfl⟩ := Prod.mk.inj (Option.some.inj hsplit)
  exact ⟨rfl, rfl⟩

/-- The first line of a buffer is the first of its pieces. -/
theorem exists_of_joined_append_eq {ps : List (List UInt8)} {tail line rest : List UInt8}
    (hps : ∀ p ∈ ps, newline ∉ p) (htail : newline ∉ tail) (hline : newline ∉ line)
    (h : joined ps ++ tail = line ++ newline :: rest) :
    ∃ more, ps = line :: more ∧ rest = joined more ++ tail := by
  cases ps with
  | nil =>
    refine absurd ?_ htail
    rw [joined_nil, List.nil_append] at h
    rw [h]
    exact List.mem_append_right _ List.mem_cons_self
  | cons p more =>
    rw [joined_cons, List.append_assoc, List.cons_append] at h
    obtain ⟨rfl, hrest⟩ := line_inj (hps p List.mem_cons_self) hline h
    exact ⟨more, rfl, hrest.symm⟩

theorem eq_nil_of_newline_not_mem {ps : List (List UInt8)} {tail : List UInt8}
    (h : newline ∉ joined ps ++ tail) : ps = [] := by
  cases ps with
  | nil => rfl
  | cons p ps => simp at h

/-- What completes a line that was begun lies behind what was there. -/
theorem length_le_of_append_eq {start chunk line rest : List UInt8} (hstart : newline ∉ start)
    (h : start ++ chunk = line ++ newline :: rest) : start.length ≤ line.length := by
  rcases List.append_eq_append_iff.mp h with ⟨mid, rfl, _⟩ | ⟨mid, hs, hmid⟩
  · simp
  · cases mid with
    | nil => simp [hs]
    | cons b mid =>
      obtain ⟨rfl, _⟩ := List.cons.inj hmid
      refine absurd ?_ hstart
      rw [hs]
      exact List.mem_append_right _ List.mem_cons_self

theorem length_lt_of_mem_joined {ps : List (List UInt8)} {p : List UInt8} (h : p ∈ ps) :
    p.length < (joined ps).length := by
  induction ps with
  | nil => contradiction
  | cons q ps ih =>
    rw [joined_cons, List.length_append, List.length_cons]
    rcases List.mem_cons.mp h with rfl | h
    · omega
    · have := ih h
      omega

end LiveConsole.Net
