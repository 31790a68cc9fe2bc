import LiveConsole.Proofs.Net.Turns

/-!
# Visits

What turns show of the connections that a listener served one after the other: what was received on
each, which lines it gave, and how it ended. What was received falls into pieces that were given as
lines, pieces that are kept for later calls, and a rest that no newline has ended yet.
-/

namespace LiveConsole.Net
set_option autoImplicit false

variable {H : Type}

/-- What is known of a connection. -/
structure Visit (H : Type) where
  socket : H
  received : List UInt8
  lines : List Text
  /-- Whether the end of the stream was met. -/
  ended : Bool
  /-- Whether the listener closed the connection. -/
  left : Bool

namespace Visit

def begun (h : H) : Visit H := ⟨h, [], [], false, false⟩

/-- What a call on its socket shows of a connection. -/
def after (v : Visit H) : Exchange H → Visit H
  | .received _ _ (.ok []) => { v with ended := true }
  | .received _ _ (.ok (b :: bs)) => { v with received := v.received ++ b :: bs }
  | .received _ _ (.error f) => if f.isA .connectionError then { v with ended := true } else v
  | .closed _ _ => { v with left := true }
  | _ => v

/-- What a call for a line shows of the connection held. -/
def heard (v : Visit H) (exchanges : List (Exchange H)) (text? : Option Text) : Visit H :=
  { exchanges.foldl after v with lines := v.lines ++ text?.toList }

end Visit

/-- What a turn shows of the connections so far, the latest of them first. -/
def Turn.watch (t : Turn H) (vs : List (Visit H)) : List (Visit H) :=
  match t.answer, t.exchanges, vs with
  | .accepted (.ok true), .accepted _ (.ok (h, _)) :: _, vs => .begun h :: vs
  | .line (.ok text?), exchanges, v :: past =>
    if v.left then v :: past else v.heard exchanges text? :: past
  | _, _, vs => vs

/-- The connections that turns show, the latest first. -/
def visits (ts : List (Turn H)) : List (Visit H) := ts.foldl (fun vs t => t.watch vs) []

/-- The connection that is held. -/
def held? : List (Visit H) → Option (Visit H)
  | [] => none
  | v :: _ => if v.left then none else some v

/-- What lines a connection has given, and when it is left. -/
structure Visit.Faithful (s : Settings) (v : Visit H) : Prop where
  /-- The lines are the first pieces that were received, in their order. -/
  lines_prefix : v.lines <+: (frames v.received).map lineText
  short : ∀ p ∈ frames v.received, p.length < s.maxLine + s.recvSize
  left_iff : v.left = true ↔ v.ended = true ∨ s.maxLine < (remainder v.received).length
  lines_of_left : v.left = true → v.lines = (frames v.received).map lineText

/-- What a turn has to be after certain connections. -/
def Turn.Exact (s : Settings) (server : H) (vs : List (Visit H)) (t : Turn H) : Prop :=
  match held? vs, t.answer with
  | none, .accepted _ => ∃ h?, Met server t h?
  | none, .line a => a = .ok none ∧ t.exchanges = []
  | some _, .accepted a => a = .ok false ∧ t.exchanges = []
  | some v, .line a =>
    a = .ok (((frames (v.heard t.exchanges none).received).map lineText)[v.lines.length]?) ∧
    if v.lines.length < (frames v.received).length then t.exchanges = []
    else ∃ r rest, t.exchanges = .received v.socket s.recvSize r :: rest ∧
      (rest = [] ∨ ∃ a, rest = [.closed v.socket a])

/-- How what was received falls into pieces: those given as lines, those kept, and the rest. -/
structure Visit.Cut (s : Settings) (v : Visit H) (given kept : List (List UInt8))
    (rest : List UInt8) : Prop where
  whole : ∀ p ∈ given ++ kept, newline ∉ p
  short : ∀ p ∈ given ++ kept, p.length < s.maxLine + s.recvSize
  rest_open : newline ∉ rest
  received_eq : v.received = joined (given ++ kept) ++ rest
  lines_eq : v.lines = given.map lineText

/-- A connection that is held by a listener with a certain buffer. -/
structure Visit.Present (s : Settings) (buffer : List UInt8) (v : Visit H) : Prop where
  cut : ∃ given kept rest, v.Cut s given kept rest ∧ buffer = joined kept ++ rest ∧
    rest.length ≤ s.maxLine
  not_ended : v.ended = false
  not_left : v.left = false

/-- A connection that was left: its rest is lost. -/
structure Visit.Past (s : Settings) (v : Visit H) : Prop where
  cut : ∃ given rest, v.Cut s given [] rest ∧ (v.ended = true ∨ s.maxLine < rest.length)
  left : v.left = true

/-- What a listener holds, with what is known of its connections. -/
inductive Standing (s : Settings) : Option H → List UInt8 → List (Visit H) → Prop where
  | free {buffer : List UInt8} {vs : List (Visit H)} (hvs : ∀ v ∈ vs, v.Past s) :
      Standing s none buffer vs
  | held {buffer : List UInt8} {v : Visit H} {vs : List (Visit H)} (hv : v.Present s buffer)
      (hvs : ∀ u ∈ vs, u.Past s) : Standing s (some v.socket) buffer (v :: vs)

namespace Visit

variable {s : Settings} {v : Visit H} {given kept : List (List UInt8)} {rest : List UInt8}

theorem Cut.frames_eq (h : v.Cut s given kept rest) : frames v.received = given ++ kept := by
  rw [h.received_eq, frames_joined h.whole h.rest_open]

theorem Cut.remainder_eq (h : v.Cut s given kept rest) : remainder v.received = rest := by
  rw [h.received_eq, remainder_joined h.whole h.rest_open]

theorem Cut.length_lines (h : v.Cut s given kept rest) : v.lines.length = given.length := by
  rw [h.lines_eq, List.length_map]

theorem Cut.lines_prefix (h : v.Cut s given kept rest) :
    v.lines <+: (frames v.received).map lineText := by
  rw [h.lines_eq, h.frames_eq, List.map_append]
  exact List.prefix_append _ _

theorem Present.faithful {buffer : List UInt8} (h : v.Present s buffer) : v.Faithful s := by
  obtain ⟨given, kept, rest, hcut, _, hle⟩ := h.cut
  refine ⟨hcut.lines_prefix, ?_, ?_, ?_⟩
  · rw [hcut.frames_eq]
    exact hcut.short
  · simp [h.not_ended, h.not_left, hcut.remainder_eq, hle]
  · simp [h.not_left]

theorem Past.faithful (h : v.Past s) : v.Faithful s := by
  obtain ⟨given, rest, hcut, hend⟩ := h.cut
  refine ⟨hcut.lines_prefix, ?_, ?_, ?_⟩
  · rw [hcut.frames_eq]
    exact hcut.short
  · simp [h.left, hcut.remainder_eq, hend]
  · rw [hcut.frames_eq, hcut.lines_eq, List.append_nil]
    exact fun _ => rfl

/-- Without a newline in the buffer no piece is kept. -/
theorem Present.cut_of_not_mem {buffer : List UInt8} (h : v.Present s buffer)
    (hn : newline ∉ buffer) : ∃ given, v.Cut s given [] buffer ∧ buffer.length ≤ s.maxLine := by
  obtain ⟨given, kept, rest, hcut, rfl, hle⟩ := h.cut
  obtain rfl := eq_nil_of_newline_not_mem hn
  exact ⟨given, hcut, hle⟩

/-- The first line of the buffer is the first piece that is kept. -/
theorem Present.cut_of_line {buffer line more : List UInt8} (h : v.Present s buffer)
    (hline : newline ∉ line) (hl : buffer = line ++ newline :: more) :
    ∃ given kept rest, v.Cut s given (line :: kept) rest ∧ more = joined kept ++ rest ∧
      rest.length ≤ s.maxLine := by
  obtain ⟨given, kept, rest, hcut, hbuffer, hle⟩ := h.cut
  obtain ⟨kept, rfl, hmore⟩ := exists_of_joined_append_eq
    (fun p hp => hcut.whole p (List.mem_append_right _ hp)) hcut.rest_open hline
    (hbuffer.symm.trans hl)
  exact ⟨given, kept, rest, hcut, hmore, hle⟩

/-- A piece that is kept is given. -/
theorem Cut.give {line : List UInt8} (h : v.Cut s given (line :: kept) rest) :
    ({ v with lines := v.lines ++ [lineText line] }).Cut s (given ++ [line]) kept rest := by
  have hassoc : given ++ [line] ++ kept = given ++ line :: kept := by simp
  refine ⟨?_, ?_, h.rest_open, ?_, ?_⟩
  · rw [hassoc]
    exact h.whole
  · rw [hassoc]
    exact h.short
  · rw [hassoc]
    exact h.received_eq
  · simp [h.lines_eq]

/-- More octets without a newline are added to the rest. -/
theorem Cut.grow {chunk : List UInt8} (h : v.Cut s given [] rest)
    (hn : newline ∉ rest ++ chunk) :
    ({ v with received := v.received ++ chunk }).Cut s given [] (rest ++ chunk) := by
  refine ⟨h.whole, h.short, hn, ?_, h.lines_eq⟩
  change v.received ++ chunk = _
  rw [h.received_eq, List.append_assoc]

/-- A chunk completes the line that was begun, and may hold further pieces. -/
theorem Cut.complete {chunk line more : List UInt8} (h : v.Cut s given [] rest)
    (hle : rest.length ≤ s.maxLine) (hsize : chunk.length ≤ s.recvSize) (hline : newline ∉ line)
    (hl : rest ++ chunk = line ++ newline :: more) :
    ∃ kept rest', more = joined kept ++ rest' ∧ rest'.length ≤ s.maxLine ∧
      ({ v with received := v.received ++ chunk }).Cut s given (line :: kept) rest' := by
  obtain ⟨kept, rest', hkept, hrest', rfl⟩ := exists_eq_joined_append more
  have hstart := length_le_of_append_eq h.rest_open hl
  have hlength : rest.length + chunk.length =
      line.length + ((joined kept).length + rest'.length + 1) := by
    rw [← List.length_append, hl, List.length_append, List.length_cons, List.length_append]
  have hmax := s.recvSize_le_maxLine
  refine ⟨kept, rest', rfl, by omega, ?_, ?_, hrest', ?_, h.lines_eq⟩
  · intro p hp
    rcases List.mem_append.mp hp with hp | hp
    · exact h.whole p (List.mem_append_left _ hp)
    · rcases List.mem_cons.mp hp with rfl | hp
      · exact hline
      · exact hkept p hp
  · intro p hp
    rcases List.mem_append.mp hp with hp | hp
    · exact h.short p (List.mem_append_left _ hp)
    · rcases List.mem_cons.mp hp with rfl | hp
      · omega
      · have := length_lt_of_mem_joined hp
        omega
  · change v.received ++ chunk = _
    rw [h.received_eq, List.append_assoc, hl]
    simp

theorem Cut.getElem?_lines (h : v.Cut s given kept rest) :
    ((frames v.received).map lineText)[v.lines.length]? = kept.head?.map lineText := by
  rw [h.frames_eq, h.length_lines, List.getElem?_map, List.getElem?_append_right (Nat.le_refl _),
    Nat.sub_self, List.head?_eq_getElem?]

/-- Pieces are left to give just when some are kept. -/
theorem Cut.length_lt_iff (h : v.Cut s given kept rest) :
    v.lines.length < (frames v.received).length ↔ kept ≠ [] := by
  rw [h.frames_eq, h.length_lines, List.length_append, Nat.lt_add_right_iff_pos,
    List.length_pos_iff]

theorem Cut.not_length_lt (h : v.Cut s given [] rest) :
    ¬v.lines.length < (frames v.received).length :=
  fun hlt => h.length_lt_iff.mp hlt rfl

theorem heard_received {h : H} {size : Nat} {chunk : List UInt8} (hchunk : chunk ≠ [])
    (text? : Option Text) : v.heard [.received h size (.ok chunk)] text? =
      { v with received := v.received ++ chunk, lines := v.lines ++ text?.toList } := by
  obtain ⟨b, bs, rfl⟩ := List.exists_cons_of_ne_nil hchunk
  rfl

theorem heard_overlong {h : H} {size : Nat} {chunk : List UInt8} {a : Except Fault Unit}
    (hchunk : chunk ≠ []) : v.heard [.received h size (.ok chunk), .closed h a] none =
      { v with received := v.received ++ chunk, left := true } := by
  obtain ⟨b, bs, rfl⟩ := List.exists_cons_of_ne_nil hchunk
  simp [heard, after]

theorem heard_ended {h : H} {size : Nat} {r : Except Fault (List UInt8)} {a : Except Fault Unit}
    (hend : Ends r) : v.heard [.received h size r, .closed h a] none =
      { v with ended := true, left := true } := by
  rcases hend with rfl | ⟨f, rfl, hf⟩
  · simp [heard, after]
  · simp [heard, after, hf]

theorem heard_quiet {h : H} {size : Nat} {f : Fault} (hf : f.isA .connectionError = false) :
    v.heard [.received h size (.error f)] none = v := by
  simp [heard, after, hf]

end Visit

section Watch
variable {s : Settings} {v : Visit H} {vs : List (Visit H)}

theorem held?_cons (hv : v.left = false) : held? (v :: vs) = some v := by
  rw [held?, hv]
  rfl

theorem Turn.watch_line (hv : v.left = false) (text? : Option Text)
    (exchanges : List (Exchange H)) :
    Turn.watch ⟨.line (.ok text?), exchanges⟩ (v :: vs) = v.heard exchanges text? :: vs := by
  simp [Turn.watch, hv]

theorem held?_of_past (hvs : ∀ v ∈ vs, v.Past s) :
    held? vs = none := by
  cases vs with
  | nil => rfl
  | cons v vs => exact if_pos (hvs v List.mem_cons_self).left

theorem Turn.watch_line_of_past (hvs : ∀ v ∈ vs, v.Past s)
    (text? : Option Text) (exchanges : List (Exchange H)) :
    Turn.watch ⟨.line (.ok text?), exchanges⟩ vs = vs := by
  cases vs with
  | nil => rfl
  | cons v vs => exact if_pos (hvs v List.mem_cons_self).left

end Watch

end LiveConsole.Net
