import LiveConsole.Proofs.Message.Body
import Mathlib.Data.List.Forall2

/-!
# Messages over the wire

A message is one line, whatever texts it is made of, and reading the line gives the message in its
flat form. So a stream of messages can be cut at its newlines, and requests and messages without
lone halves can be told apart by their octets.
-/

namespace LiveConsole
set_option autoImplicit false

open Json Net

namespace Message

section Plain
variable {V ε : Type} (plain : V → Except ε Text) (kept? : V → Option Scalar)

/-- A name and its value in the form in which they are sent. -/
def Plain (e : V × V) (m : Text × Scalar) : Prop :=
  plain e.1 = .ok m.1 ∧ scalar plain kept? e.2 = .ok m.2

/-- Both the name and the value have a plain form. -/
def Writable (e : V × V) : Prop := (∃ k, plain e.1 = .ok k) ∧ ∃ v, plain e.2 = .ok v

/-- What the line of a message says: the plain forms, merged before and after they are encoded. -/
def Flat (entries : List (V × V)) (d : Datum) : Prop :=
  ∃ ms, List.Forall₂ (Plain plain kept?) entries ms ∧
    d = .dict ((received (merged ms)).map entry)

variable {plain kept?}

theorem exists_scalar {v : V} {t : Text} (h : plain v = .ok t) :
    ∃ s, scalar plain kept? v = .ok s := by
  unfold scalar
  cases kept? v with
  | some s => exact ⟨s, rfl⟩
  | none => exact ⟨.text t, by rw [h]; rfl⟩

theorem exists_plain {entries : List (V × V)} (h : ∀ e ∈ entries, Writable plain e) :
    ∃ ms, List.Forall₂ (Plain plain kept?) entries ms := by
  induction entries with
  | nil => exact ⟨[], .nil⟩
  | cons e es ih =>
    obtain ⟨⟨k, hk⟩, t, ht⟩ := h e List.mem_cons_self
    obtain ⟨s, hs⟩ := exists_scalar ht
    obtain ⟨ms, hms⟩ := ih fun x hx => h x (List.mem_cons_of_mem e hx)
    exact ⟨(k, s) :: ms, .cons ⟨hk, hs⟩ hms⟩

theorem mapM_of_forall₂ {α β : Type} {f : α → Except ε β} {R : α → β → Prop} {xs : List α}
    {ys : List β} (h : List.Forall₂ R xs ys) (hR : ∀ x y, R x y → f x = .ok y) :
    xs.mapM f = .ok ys := by
  induction h with
  | nil => rfl
  | cons hxy _ ih =>
    rw [List.mapM_cons, hR _ _ hxy, ih]
    rfl

theorem flatten_of_plain {entries : List (V × V)} {ms : List (Text × Scalar)}
    (h : List.Forall₂ (Plain plain kept?) entries ms) :
    flatten plain kept? entries = .ok (merged ms) := by
  have hplain (e : V × V) (m : Text × Scalar) (he : Plain plain kept? e m) :
      (do return (← plain e.1, ← scalar plain kept? e.2)) = Except.ok m := by
    rw [he.1, he.2]
    rfl
  rw [flatten, mapM_of_forall₂ h hplain, ← foldl_assign]
  rfl

theorem ok_of_bind {α β : Type} {r : Except ε α} {f : α → Except ε β} {b : β}
    (h : (r >>= f) = .ok b) : ∃ a, r = .ok a ∧ f a = .ok b := by
  cases r with
  | error e => nomatch h
  | ok a => exact ⟨a, rfl, h⟩

theorem nodup_of_flatten {entries : List (V × V)} {ms : List (Text × Scalar)}
    (h : flatten plain kept? entries = .ok ms) : (ms.map Prod.fst).Nodup := by
  unfold flatten at h
  obtain ⟨ns, -, h⟩ := ok_of_bind h
  rw [foldl_assign] at h
  obtain rfl := Except.ok.inj h
  exact nodup_merged ns

end Plain

/-- No text of a message has a lone half. -/
def WholeMembers (ms : List (Text × Scalar)) : Prop :=
  ∀ m ∈ ms, m.1.Whole ∧ ∀ t, m.2 = .text t → t.Whole

theorem softenMember_of_whole {m : Text × Scalar} (hn : m.1.Whole)
    (hv : ∀ t, m.2 = .text t → t.Whole) : softenMember m = m := by
  obtain ⟨n, v⟩ := m
  have hname : n.soften = n := Text.soften_of_whole hn
  cases v with
  | text t =>
    have ht : t.soften = t := Text.soften_of_whole (hv t rfl)
    simp only [softenMember, Scalar.soften, hname, ht]
  | flag b => simp only [softenMember, Scalar.soften, hname]

theorem received_of_whole {ms : List (Text × Scalar)} (hms : (ms.map Prod.fst).Nodup)
    (h : WholeMembers ms) : received ms = ms := by
  have hmap : ms.map softenMember = ms := by
    have := List.map_congr_left fun m hm => softenMember_of_whole (h m hm).1 (h m hm).2
    rw [this]
    exact List.map_id' ms
  rw [received, hmap, merged_of_nodup hms]

theorem entry_injective {m n : Text × Scalar} (h : entry m = entry n) : m = n := by
  obtain ⟨a, v⟩ := m
  obtain ⟨b, w⟩ := n
  cases v <;> cases w <;> simp_all [entry, Scalar.datum]

/-- The octets of a merged message without lone halves determine it. -/
theorem body_injective {ms ns : List (Text × Scalar)} (hms : (ms.map Prod.fst).Nodup)
    (hns : (ns.map Prod.fst).Nodup) (hwm : WholeMembers ms) (hwn : WholeMembers ns)
    (h : body ms = body ns) : ms = ns := by
  have hread := message?_body 0 ms
  rw [h, message?_body 0 ns, received_of_whole hms hwm, received_of_whole hns hwn] at hread
  simp only [Except.ok.injEq, Option.some.injEq, Datum.dict.injEq] at hread
  exact (List.map_injective_iff.mpr fun _ _ => entry_injective) hread.symm

section Streams
variable {V ε : Type} {plain : V → Except ε Text} {kept? : V → Option Scalar}

theorem exists_body {entries : List (V × V)} (h : ∀ e ∈ entries, Writable plain e) :
    ∃ ms, Flat plain kept? entries (.dict ((received ms).map entry)) ∧
      wire plain kept? entries = .ok (body ms ++ [newline]) := by
  obtain ⟨ms, hms⟩ := exists_plain h
  refine ⟨merged ms, ⟨ms, hms, rfl⟩, ?_⟩
  rw [wire, flatten_of_plain hms]
  exact congrArg Except.ok (line_eq_body_append (merged ms))

theorem exists_bodies {messages : List (List (V × V))}
    (h : ∀ m ∈ messages, ∀ e ∈ m, Writable plain e) :
    ∃ mss, List.Forall₂ (fun m ms => wire plain kept? m = .ok (body ms ++ [newline]))
        messages mss ∧
      List.Forall₂ (fun m ms => Flat plain kept? m (.dict ((received ms).map entry)))
        messages mss := by
  induction messages with
  | nil => exact ⟨[], .nil, .nil⟩
  | cons m rest ih =>
    obtain ⟨ms, hflat, hline⟩ := exists_body (h m List.mem_cons_self)
    obtain ⟨mss, hlines, hflats⟩ := ih fun x hx => h x (List.mem_cons_of_mem m hx)
    exact ⟨ms :: mss, .cons hline hlines, .cons hflat hflats⟩

theorem newline_not_mem_of_mem_map_body (mss : List (List (Text × Scalar))) :
    ∀ p ∈ mss.map body, newline ∉ p := by
  intro p hp
  obtain ⟨ms, _, rfl⟩ := List.mem_map.mp hp
  exact newline_not_mem_body ms

theorem decodeStrict_line (ms : List (Text × Scalar)) :
    ∃ t, Utf8.decodeStrict (body ms ++ [newline]) = .ok t := by
  rw [← line_eq_body_append]
  exact ⟨_, Utf8.decodeStrict_encodeReplacing _⟩

theorem wire_injective {m n : List (V × V)} {ms ns : List (Text × Scalar)}
    (hm : flatten plain kept? m = .ok ms) (hn : flatten plain kept? n = .ok ns)
    (hwm : WholeMembers ms) (hwn : WholeMembers ns)
    (h : wire plain kept? m = wire plain kept? n) : ms = ns := by
  rw [wire, wire, hm, hn] at h
  have hline : line ms = line ns := Except.ok.inj h
  rw [line_eq_body_append, line_eq_body_append] at hline
  exact body_injective (nodup_of_flatten hm) (nodup_of_flatten hn) hwm hwn
    (List.append_cancel_right hline)

end Streams

/-- Each message is one line, which holds no other control character and which a client reads as
the flat form of the message. A stream of messages falls apart at its newlines, and flat messages
without lone halves are told apart by their octets. -/
theorem stream_reads_back {V ε : Type} (room : Nat) (plain : V → Except ε Text)
    (kept? : V → Option Scalar) (messages : List (List (V × V)))
    (h : ∀ m ∈ messages, ∀ e ∈ m, Writable plain e) :
    (∀ m ∈ messages, ∃ body d, Flat plain kept? m d ∧
      wire plain kept? m = .ok (body ++ [newline]) ∧ (∀ octet ∈ body, 0x20 ≤ octet.toNat) ∧
      (∃ t, Utf8.decodeStrict (body ++ [newline]) = .ok t) ∧
      Client.message? room body = .ok (some d)) ∧
    (∃ wires ds, List.Forall₂ (fun m w => wire plain kept? m = .ok w) messages wires ∧
      List.Forall₂ (Flat plain kept?) messages ds ∧ remainder wires.flatten = [] ∧
      (frames wires.flatten).map (Client.message? room) = ds.map fun d => .ok (some d)) ∧
    ∀ (m n : List (V × V)) (ms ns : List (Text × Scalar)), flatten plain kept? m = .ok ms →
      flatten plain kept? n = .ok ns → WholeMembers ms → WholeMembers ns →
      wire plain kept? m = wire plain kept? n → ms = ns := by
  refine ⟨?_, ?_, fun m n ms ns => wire_injective⟩
  · intro m hm
    obtain ⟨ms, hflat, hline⟩ := exists_body (h m hm)
    exact ⟨body ms, _, hflat, hline, fun octet => clear_body, decodeStrict_line ms,
      message?_body room ms⟩
  · obtain ⟨mss, hlines, hflats⟩ := exists_bodies h
    have hsplit := newline_not_mem_of_mem_map_body mss
    have hstream : (mss.map fun ms => body ms ++ [newline]).flatten =
        joined (mss.map body) ++ [] := by
      simp [joined, List.flatMap_def, Function.comp_def]
    refine ⟨mss.map fun ms => body ms ++ [newline],
      mss.map fun ms => .dict ((received ms).map entry), ?_, ?_, ?_, ?_⟩
    · exact List.forall₂_map_right_iff.mpr hlines
    · exact List.forall₂_map_right_iff.mpr hflats
    · rw [hstream, remainder_joined hsplit List.not_mem_nil]
    · rw [hstream, frames_joined hsplit List.not_mem_nil, List.map_map, List.map_map]
      exact List.map_congr_left fun ms _ => message?_body room ms

/-- Two messages whose names are merged: the first when they are put in plain form, the second when
they are encoded. -/
def mergingMessages : List (List (Datum × Datum)) :=
  [[(.null, .list [.null, .flag true]), (.text "None", .text "\r\n")],
    [(.text [.lone 0], .flag false), (.text "?", .null)]]

theorem writable_mergingMessages : ∀ m ∈ mergingMessages, ∀ e ∈ m, Writable Datum.plain e := by
  intro m hm e he
  rcases List.mem_pair.mp hm with rfl | rfl
  · rcases List.mem_pair.mp he with rfl | rfl
    · exact ⟨⟨_, rfl⟩, _, rfl⟩
    · exact ⟨⟨_, rfl⟩, _, rfl⟩
  · rcases List.mem_pair.mp he with rfl | rfl
    · exact ⟨⟨_, rfl⟩, _, rfl⟩
    · exact ⟨⟨_, rfl⟩, _, rfl⟩

theorem mergingMessages_read_back :
    (∀ m ∈ mergingMessages, ∀ e ∈ m, Writable Datum.plain e) ∧
    ∃ wires ds, List.Forall₂ (fun m w => encode m = .ok w) mergingMessages wires ∧
      List.Forall₂ (Flat Datum.plain kept?) mergingMessages ds ∧ remainder wires.flatten = [] ∧
      (frames wires.flatten).map (Client.message? 0) = ds.map fun d => .ok (some d) :=
  ⟨writable_mergingMessages,
    (stream_reads_back 0 Datum.plain kept? mergingMessages writable_mergingMessages).2.1⟩

end Message

namespace Request

theorem received_members (t : Text) : Message.received (members ⟨t⟩) = members ⟨t.soften⟩ := by
  have hmap : (members ⟨t⟩).map softenMember = members ⟨t.soften⟩ := rfl
  have hnames : ((members ⟨t.soften⟩).map Prod.fst).Nodup := by
    change [Text.ofString "type", Text.ofString "expression"].Nodup
    decide
  rw [Message.received, hmap, Message.merged_of_nodup hnames]

theorem decode_lineText_body (room : Nat) (t : Text) :
    decode room (lineText (Message.body (members ⟨t⟩))) = .ok ⟨t.soften⟩ := by
  rw [Message.lineText_body, decode, Message.read_soften, received_members]
  rfl

/-- A request is read back with question marks for lone halves. Without lone halves it is read back
as it was sent, so its octets determine it. -/
theorem expression_survives (room : Nat) (t : Text) :
    (∃ line, encode ⟨t⟩ = line ++ [newline] ∧ decode room (lineText line) = .ok ⟨t.soften⟩) ∧
    (t.Whole → decode room (lineText (encode ⟨t⟩).dropLast) = .ok ⟨t⟩) ∧
    ∀ s : Text, s.Whole → t.Whole → encode ⟨s⟩ = encode ⟨t⟩ → s = t := by
  have hline (s : Text) : encode ⟨s⟩ = Message.body (members ⟨s⟩) ++ [newline] :=
    Message.line_eq_body_append (members ⟨s⟩)
  have hwhole (s : Text) (hs : s.Whole) : decode room (lineText (encode ⟨s⟩).dropLast) = .ok ⟨s⟩ := by
    rw [hline, List.dropLast_concat, decode_lineText_body, Text.soften_of_whole hs]
  refine ⟨⟨_, hline t, decode_lineText_body room t⟩, hwhole t, ?_⟩
  intro s hs ht h
  have hread := hwhole s hs
  rw [h, hwhole t ht] at hread
  exact (Request.mk.inj (Except.ok.inj hread)).symm

end Request
end LiveConsole
