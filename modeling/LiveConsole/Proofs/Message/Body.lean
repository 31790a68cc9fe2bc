import LiveConsole.Net.Client
import LiveConsole.Proofs.Json.Rereading
import LiveConsole.Proofs.Json.Written
import LiveConsole.Proofs.Message.Merging
import LiveConsole.Proofs.Net.Frames

/-!
# The line of a flat message

The line is the written object with a newline behind it, and holds no other control character. Reading
it back gives the members with question marks for lone halves, where names that this makes equal are
merged.
-/

namespace LiveConsole
set_option autoImplicit false

open Json Net

namespace Message

/-- The line of a message without its newline. -/
def body (ms : List (Text × Scalar)) : List UInt8 := Utf8.encodeReplacing (writeObject ms)

theorem line_eq_body_append (ms : List (Text × Scalar)) : line ms = body ms ++ [newline] :=
  line_eq_append ms

theorem clear_body {ms : List (Text × Scalar)} {octet : UInt8} (h : octet ∈ body ms) :
    0x20 ≤ octet.toNat :=
  Utf8.le_toNat_of_mem_encodeReplacing (clear_writeObject ms) h

theorem newline_not_mem_body (ms : List (Text × Scalar)) : newline ∉ body ms := by
  intro h
  have hle := clear_body h
  exact absurd hle (by decide)

theorem decodeStrict_body (ms : List (Text × Scalar)) :
    Utf8.decodeStrict (body ms) = .ok (writeObject (ms.map softenMember)) := by
  rw [body, Utf8.decodeStrict_encodeReplacing, soften_writeObject]

theorem decodeReplacing_body (ms : List (Text × Scalar)) :
    Utf8.decodeReplacing (body ms) = writeObject (ms.map softenMember) := by
  rw [body, Utf8.decodeReplacing_encodeReplacing, soften_writeObject]

/-- A line that ends as an object does loses no carriage return. -/
theorem lineText_body (ms : List (Text × Scalar)) :
    lineText (body ms) = writeObject (ms.map softenMember) := by
  have hclose : Text.ofString "\x7d" = [.scalar '\x7d'] := rfl
  have hlast : (body ms).reverse.dropWhile (· = 0x0D) = (body ms).reverse := by
    rw [body, writeObject, hclose, Utf8.encodeReplacing_append]
    have hbrace : Utf8.encodeReplacing [.scalar '\x7d'] = [0x7D] := by decide
    rw [hbrace, List.reverse_append]
    rfl
  rw [lineText, hlast, List.reverse_reverse, decodeReplacing_body]

theorem equal_text (s t : Text) : Datum.equal (.text s) (.text t) = decide (s = t) := by
  simp [Datum.equal, beq_eq_decide]

/-- Reading a member sets it as writing does. -/
theorem enter_map_entry (found : List (Text × Scalar)) (m : Text × Scalar) :
    enter (found.map entry) m = (assign m.1 m.2 found).map entry := by
  induction found with
  | nil => rfl
  | cons n ns ih =>
    have htail : Datum.assign (.text m.1) m.2.datum (ns.map entry) = _ := ih
    by_cases h : n.1 = m.1
    · simp [enter, entry, Datum.assign, assign, equal_text, h]
    · simp only [enter, entry, List.map_cons, Datum.assign, assign, equal_text, decide_eq_true_eq,
        if_neg h, List.cons.injEq, true_and]
      exact htail

theorem foldl_enter (ms found : List (Text × Scalar)) :
    ms.foldl enter (found.map entry) =
      (ms.foldl (fun found (n, v) => assign n v found) found).map entry := by
  induction ms generalizing found with
  | nil => rfl
  | cons m ms ih => rw [List.foldl_cons, enter_map_entry, ih, List.foldl_cons]

theorem dictionary_eq_merged (ms : List (Text × Scalar)) :
    dictionary ms = (merged ms).map entry := by
  rw [dictionary, ← foldl_assign]
  exact foldl_enter ms []

/-- What a reader of a message finds: lone halves have become question marks, and the names that
this makes equal are merged. -/
def received (ms : List (Text × Scalar)) : List (Text × Scalar) := merged (ms.map softenMember)

theorem read_soften (room : Nat) (ms : List (Text × Scalar)) :
    read room (writeObject (ms.map softenMember)) = .ok (.dict ((received ms).map entry)) := by
  rw [read_writeObject, dictionary_eq_merged, received]

/-- A client that takes the line of a message gets the message. -/
theorem message?_body (room : Nat) (ms : List (Text × Scalar)) :
    Client.message? room (body ms) = .ok (some (.dict ((received ms).map entry))) := by
  simp only [Client.message?, decodeStrict_body, read_soften]

end Message

/-- A response is sent as the line of a message. -/
theorem Response.exists_body {r : Response} {data : List UInt8} (h : r.encode = .ok data) :
    ∃ ms, data = Message.body ms ++ [newline] := by
  unfold encode Message.encode Message.wire at h
  rcases hms : Message.flatten Datum.plain Message.kept? r.entries with reason | ms
  · rw [hms] at h
    contradiction
  · rw [hms] at h
    obtain rfl := Except.ok.inj h
    exact ⟨ms, Message.line_eq_body_append ms⟩

end LiveConsole
