import LiveConsole.Json.Reader
import LiveConsole.Json.Writer

/-!
# Reading back what was written

The reader finds in a written object the members in their order. A string is read back one code
point at a time; a member is read back whatever follows it, so that the members of an object are
read back by induction on them.
-/

namespace LiveConsole
set_option autoImplicit false

theorem CodePoint.ofNat_toNat (c : Char) : CodePoint.ofNat c.toNat = .scalar c := by
  have hc : c.toNat < 0xD800 ∨ 0xDFFF < c.toNat ∧ c.toNat < 0x110000 := c.valid
  unfold CodePoint.ofNat
  rw [dif_neg (by omega), if_pos (by omega), Char.ofNat_toNat]

namespace Json

theorem hexDigit?_digitChar : ∀ n < 16, hexDigit? (.scalar (Nat.digitChar n)) = some n := by
  decide

theorem hexNumber?_of_lt {n : Nat} (h : n < 0x20) :
    hexNumber? (.scalar '0') (.scalar '0') (.scalar (Nat.digitChar (n / 16)))
      (.scalar (Nat.digitChar (n % 16))) = some n := by
  have h0 : hexDigit? (.scalar '0') = some 0 := by decide
  have hhigh := hexDigit?_digitChar (n / 16) (by omega)
  have hlow := hexDigit?_digitChar (n % 16) (by omega)
  have hn : ((0 * 16 + 0) * 16 + n / 16) * 16 + n % 16 = n := by omega
  simp only [hexNumber?, h0, hhigh, hlow, Option.bind_eq_bind, Option.bind_some, Option.pure_def, hn]

/-- A code point below the halves joins no high half before it. -/
theorem addEscaped_of_lt {n : Nat} (h : n < 0xDC00) (afterHigh : Bool) (found : Text) :
    addEscaped n afterHigh found = CodePoint.ofNat n :: found := by
  unfold addEscaped
  split
  · rw [if_neg (by omega)]
  · rfl

section StringBody
variable (start : Text) (afterHigh : Bool) (found rest : Text)

theorem stringBody_simpleEscape {c e : Char} (hu : c ≠ 'u') (h : simpleEscape? c = some e) :
    stringBody start afterHigh found (.scalar '\\' :: .scalar c :: rest) =
      stringBody start false (.scalar e :: found) rest := by
  rw [stringBody]
  · rw [h]
  · exact hu

theorem stringBody_unicodeEscape {n : Nat} (h : n < 0x20) (hrest : rest ≠ []) :
    stringBody start afterHigh found
      (.scalar '\\' :: .scalar 'u' :: .scalar '0' :: .scalar '0' ::
        .scalar (Nat.digitChar (n / 16)) :: .scalar (Nat.digitChar (n % 16)) :: rest) =
      stringBody start false (CodePoint.ofNat n :: found) rest := by
  obtain ⟨next, more, rfl⟩ := List.exists_cons_of_ne_nil hrest
  have hhigh : decide (0xD800 ≤ n ∧ n < 0xDC00) = false := decide_eq_false (by omega)
  rw [stringBody, hexNumber?_of_lt h]
  simp only [hhigh]
  rw [addEscaped_of_lt (by omega)]

theorem stringBody_raw {c : CodePoint} (hq : c ≠ .scalar '"') (hb : c ≠ .scalar '\\')
    (h : 0x20 ≤ c.value) :
    stringBody start afterHigh found (c :: rest) =
      stringBody start false (c :: found) rest := by
  rw [stringBody]
  · rw [if_neg (by omega)]
  · exact hq
  · exact fun hc _ => hb hc
  · exact fun _ hc _ => hb hc
  · exact fun _ _ hc _ => hb hc
  · exact fun _ _ hc _ => hb hc

/-- An escaped code point is read back as itself. -/
theorem stringBody_escape (c : CodePoint) (hrest : rest ≠ []) :
    stringBody start afterHigh found (escape c ++ rest) =
      stringBody start false (c :: found) rest := by
  cases c with
  | lone half =>
    have hv : 0x20 ≤ (CodePoint.lone half).value := by
      have := (CodePoint.value_lone_mem half).1
      omega
    exact stringBody_raw start afterHigh found rest (by simp) (by simp) hv
  | scalar c =>
    simp only [escape, Text.ofChars]
    unfold escapeChar
    split
    · exact stringBody_simpleEscape start afterHigh found rest (by decide) rfl
    · exact stringBody_simpleEscape start afterHigh found rest (by decide) rfl
    · exact stringBody_simpleEscape start afterHigh found rest (by decide) rfl
    · exact stringBody_simpleEscape start afterHigh found rest (by decide) rfl
    · exact stringBody_simpleEscape start afterHigh found rest (by decide) rfl
    · exact stringBody_simpleEscape start afterHigh found rest (by decide) rfl
    · exact stringBody_simpleEscape start afterHigh found rest (by decide) rfl
    · next hquote hbackslash _ _ _ _ _ =>
      split
      · next hlt =>
        have h := stringBody_unicodeEscape start afterHigh found rest hlt hrest
        rw [CodePoint.ofNat_toNat] at h
        exact h
      · next hge =>
        refine stringBody_raw start afterHigh found rest ?_ ?_ (Nat.le_of_not_lt hge)
        · exact fun h => hquote (CodePoint.scalar.inj h)
        · exact fun h => hbackslash (CodePoint.scalar.inj h)

/-- The string scanner stops at the closing quote, with all that was escaped before it. -/
theorem stringBody_flatMap_escape (t : Text) :
    stringBody start afterHigh found (t.flatMap escape ++ .scalar '"' :: rest) =
      .ok (found.reverse ++ t, rest) := by
  induction t generalizing afterHigh found with
  | nil => simp [stringBody]
  | cons c cs ih =>
    rw [List.flatMap_cons, List.append_assoc, stringBody_escape _ _ _ _ c (by simp), ih]
    simp

end StringBody

theorem writeString_append (t rest : Text) :
    writeString t ++ rest = .scalar '"' :: (t.flatMap escape ++ .scalar '"' :: rest) := by
  simp [writeString]

/-- A scalar as a datum. -/
def Scalar.datum : Scalar → Datum
  | .text t => .text t
  | .flag b => .flag b

def entry (member : Text × Scalar) : Datum × Datum := (.text member.1, member.2.datum)

theorem valueWith_write (fuel : Nat) (inner : Option (Text → Except Trouble (Found Datum)))
    (v : Scalar) (rest : Text) :
    valueWith fuel inner (v.write ++ rest) = .ok (v.datum, rest) := by
  cases v with
  | text t =>
    simp only [Scalar.write, writeString_append, valueWith]
    rw [stringBody_flatMap_escape]
    rfl
  | flag b => cases b <;> rfl

theorem value_write (fuel depth : Nat) (v : Scalar) (rest : Text) :
    value fuel depth (v.write ++ rest) = .ok (v.datum, rest) := by
  cases depth with
  | zero => exact valueWith_write fuel none v rest
  | succ depth => exact valueWith_write fuel _ v rest

theorem writeMember_append (m : Text × Scalar) (rest : Text) :
    writeMember m ++ rest =
      .scalar '"' :: (m.1.flatMap escape ++
        .scalar '"' :: .scalar ':' :: (m.2.write ++ rest)) := by
  have hcolon : Text.ofString ":" = [.scalar ':'] := rfl
  simp [writeMember, writeString, hcolon]

theorem skipSpace_write (v : Scalar) (rest : Text) :
    skipSpace (v.write ++ rest) = v.write ++ rest := by
  cases v with
  | text t => rfl
  | flag b => cases b <;> rfl

/-- Members begin with a quote. -/
theorem join_eq_cons (m : Text × Scalar) (ms : List (Text × Scalar)) (rest : Text) :
    ∃ body, Text.join "," ((m :: ms).map writeMember) ++ rest = .scalar '"' :: body := by
  cases ms with
  | nil =>
    rw [List.map_singleton, Text.join_singleton, writeMember_append]
    exact ⟨_, rfl⟩
  | cons n ns =>
    rw [List.map_cons, List.map_cons, Text.join_cons_cons, List.append_assoc, List.append_assoc,
      writeMember_append]
    exact ⟨_, rfl⟩

/-- Sets an entry of a dictionary that is being read. -/
def enter (found : List (Datum × Datum)) (m : Text × Scalar) : List (Datum × Datum) :=
  Datum.assign (.text m.1) m.2.datum found

section Members
variable (fuel depth : Nat)

theorem members_writeMember (bound : Nat) (found : List (Datum × Datum)) (m : Text × Scalar)
    (rest : Text) :
    members (value fuel depth) (bound + 1) found (writeMember m ++ rest) =
      match skipSpace rest with
      | .scalar '}' :: after => .ok (.dict (enter found m), after)
      | .scalar ',' :: after =>
        members (value fuel depth) bound (enter found m) (skipSpace after)
      | after => .error (.malformed .expectingComma after) := by
  have hcolon (t : Text) : skipSpace (.scalar ':' :: t) = .scalar ':' :: t := rfl
  rw [writeMember_append, members, stringBody_flatMap_escape]
  simp only [bind, Except.bind, List.reverse_nil, List.nil_append, hcolon, skipSpace_write,
    value_write]
  rfl

/-- The members of an object that is not empty, up to its closing brace. -/
theorem members_join (m : Text × Scalar) (ms : List (Text × Scalar)) (bound : Nat)
    (hb : ms.length < bound) (found : List (Datum × Datum)) (rest : Text) :
    members (value fuel depth) bound found
      (Text.join "," ((m :: ms).map writeMember) ++ .scalar '}' :: rest) =
      .ok (.dict ((m :: ms).foldl enter found), rest) := by
  induction ms generalizing m bound found with
  | nil =>
    obtain ⟨bound, rfl⟩ : ∃ k, bound = k + 1 := ⟨bound - 1, by omega⟩
    rw [List.map_singleton, Text.join_singleton, members_writeMember]
    rfl
  | cons n ns ih =>
    obtain ⟨bound, rfl⟩ : ∃ k, bound = k + 1 := ⟨bound - 1, by omega⟩
    have hbound : ns.length < bound := by
      simp only [List.length_cons] at hb
      omega
    have hcomma (t : Text) : Text.ofString "," ++ t = .scalar ',' :: t := rfl
    have hspace (t : Text) : skipSpace (.scalar ',' :: t) = .scalar ',' :: t := rfl
    rw [List.map_cons, List.map_cons, Text.join_cons_cons, List.append_assoc, List.append_assoc,
      members_writeMember, hcomma, hspace]
    obtain ⟨body, hbody⟩ := join_eq_cons n ns (.scalar '}' :: rest)
    have hnext := ih n bound hbound (enter found m)
    rw [List.map_cons] at hbody hnext
    rw [hbody] at hnext ⊢
    exact hnext

end Members

/-- The dictionary of the members of an object: equal names are merged. -/
def dictionary (ms : List (Text × Scalar)) : List (Datum × Datum) := ms.foldl enter []

theorem valueWith_writeObject (fuel depth : Nat) (ms : List (Text × Scalar))
    (hfuel : ms.length ≤ fuel) (rest : Text) :
    valueWith fuel (some (value fuel depth)) (writeObject ms ++ rest) =
      .ok (.dict (dictionary ms), rest) := by
  have hopen : Text.ofString "\x7b" = [.scalar '\x7b'] := rfl
  have hclose : Text.ofString "\x7d" = [.scalar '\x7d'] := rfl
  simp only [writeObject, hopen, hclose, List.append_assoc, List.cons_append, List.nil_append]
  cases ms with
  | nil => rfl
  | cons m ms =>
    obtain ⟨body, hbody⟩ := join_eq_cons m ms (.scalar '\x7d' :: rest)
    have hread := members_join fuel depth m ms fuel hfuel [] rest
    rw [hbody] at hread ⊢
    exact hread

/-- Reading a written object gives the dictionary of its members, for it takes a single level. -/
theorem read_writeObject (room : Nat) (ms : List (Text × Scalar)) :
    read room (writeObject ms) = .ok (.dict (dictionary ms)) := by
  have hlen : ms.length ≤ (writeObject ms).length + 1 := by
    have hcomma : Text.ofString "," ≠ [] := by decide
    have hjoin := Text.length_le_length_join hcomma (ms.map writeMember)
    rw [List.length_map] at hjoin
    simp only [writeObject, List.length_append]
    omega
  have hvalue := valueWith_writeObject ((writeObject ms).length + 1) room ms hlen []
  rw [List.append_nil] at hvalue
  have hopen : Text.ofString "\x7b" = [.scalar '\x7b'] := rfl
  obtain ⟨body, hbody⟩ : ∃ body, writeObject ms = .scalar '\x7b' :: body := by
    simp only [writeObject, hopen, List.cons_append, List.nil_append]
    exact ⟨_, rfl⟩
  have hspace : skipSpace (writeObject ms) = writeObject ms := by
    rw [hbody]
    rfl
  have hdocument : document room (writeObject ms) = .ok (.dict (dictionary ms)) := by
    unfold document
    split
    · next h =>
      rw [hbody] at h
      exact absurd (List.cons.inj h).1 (by decide)
    · rw [hspace, value, hvalue]
      rfl
  rw [read, hdocument]

end Json
end LiveConsole
