import LiveConsole.Proofs.Console.Decoding
import LiveConsole.Proofs.Json.Documents
import LiveConsole.Proofs.Message.Body

/-!
# Which texts are requests

A text is a request because of the value it spells, and not because of how it spells the value. What is
no request is refused for the first thing that it lacks.
-/

namespace LiveConsole
set_option autoImplicit false

open Json (Document nesting)

namespace Request

/-- The value of a request for an expression, whatever else it holds. -/
def Requests (d : Datum) (s : Text) : Prop :=
  ∃ members, d = .dict members ∧ Datum.field? "type" members = some (.text "evaluate") ∧
    Datum.field? "expression" members = some (.text s)

/-- What a value lacks to be a request. A type that is missing is told as null is. -/
inductive Lacks : Datum → Refusal → Prop where
  | object {d : Datum} (h : ∀ members, d ≠ .dict members) : Lacks d .notObject
  | type {members : List (Datum × Datum)} {shown : Text}
      (h : Datum.field? "type" members ≠ some (.text "evaluate"))
      (hshown : ((Datum.field? "type" members).getD .null).literal = .ok shown) :
      Lacks (.dict members) (.unknownType shown)
  | expression {members : List (Datum × Datum)}
      (htype : Datum.field? "type" members = some (.text "evaluate"))
      (h : ∀ s, Datum.field? "expression" members ≠ some (.text s)) :
      Lacks (.dict members) .noExpression

theorem isEvaluate_iff (type : Option Datum) :
    isEvaluate type = true ↔ type = some (.text "evaluate") := by
  constructor
  · intro h
    unfold isEvaluate at h
    split at h
    · next t =>
      rw [eq_of_beq h, evaluate]
    · contradiction
  · rintro rfl
    rfl

theorem ofDatum_eq_ok_iff (d : Datum) (s : Text) : ofDatum d = .ok ⟨s⟩ ↔ Requests d s := by
  constructor
  · intro h
    unfold ofDatum at h
    split at h
    · next members =>
      dsimp only at h
      split at h
      · next htype =>
        split at h
        · next s' hexpression =>
          obtain rfl := congrArg expression (Except.ok.inj h)
          exact ⟨members, rfl, (isEvaluate_iff _).mp htype, hexpression⟩
        · contradiction
      · split at h <;> contradiction
    · contradiction
  · rintro ⟨members, rfl, htype, hexpression⟩
    simp only [ofDatum, if_pos ((isEvaluate_iff _).mpr htype), hexpression]

theorem ofDatum_eq_refused_iff (d : Datum) (reason : Refusal) :
    ofDatum d = .error (.refused reason) ↔ Lacks d reason := by
  constructor
  · intro h
    unfold ofDatum at h
    split at h
    · next members =>
      dsimp only at h
      split at h
      · next htype =>
        split at h
        · contradiction
        · next hexpression =>
          obtain rfl := Failure.refused.inj (Except.error.inj h)
          exact .expression ((isEvaluate_iff _).mp htype) hexpression
      · next htype =>
        rw [isEvaluate_iff] at htype
        split at h
        · next shown hshown =>
          obtain rfl := Failure.refused.inj (Except.error.inj h)
          exact .type htype hshown
        · simp at h
    · next hobject =>
      obtain rfl := Failure.refused.inj (Except.error.inj h)
      exact .object hobject
  · intro h
    cases h with
    | object h =>
      cases d with
      | dict members => exact absurd rfl (h members)
      | _ => rfl
    | type h hshown => simp only [ofDatum, if_neg (mt (isEvaluate_iff _).mp h), hshown]
    | expression htype h =>
      simp only [ofDatum, if_pos ((isEvaluate_iff _).mpr htype)]

variable {room : Nat}

theorem decode_of_read {t : Text} {d : Datum} (h : Json.read room t = .ok d) :
    decode room t = ofDatum d := by
  unfold decode
  rw [h]

theorem exists_document {t : Text} {r : Request} (h : decode room t = .ok r) :
    ∃ d, Document t d := by
  unfold decode at h
  split at h
  · next d hread =>
    unfold Json.read at hread
    split at hread
    · next d' hd => exact ⟨d', Json.document_of_read hd⟩
    · contradiction
  · contradiction
  · contradiction

/-- A text that spells a value is a request or refused, whatever the value. -/
theorem decode_of_document {t : Text} (ht : nesting t ≤ room + 1) {d : Datum}
    (hd : Document t d) :
    decode room t = ofDatum d ∧ ((∃ s, Requests d s) ∨ ∃ reason, Lacks d reason) := by
  have hread := (Json.read_eq_ok_iff ht).mpr hd
  have hdecode := decode_of_read hread
  refine ⟨hdecode, ?_⟩
  rcases decode_cases room t with ⟨⟨s⟩, h⟩ | ⟨reason, h⟩ | ⟨array, h, hdeep⟩
  · exact .inl ⟨s, (ofDatum_eq_ok_iff d s).mp (hdecode ▸ h)⟩
  · exact .inr ⟨reason, (ofDatum_eq_refused_iff d reason).mp (hdecode ▸ h)⟩
  · exact absurd hdeep (Nat.not_lt.mpr ht)

theorem decode_of_no_document {t : Text} (ht : nesting t ≤ room + 1)
    (hno : ∀ d, ¬Document t d) : ∃ problem, decode room t = .error (.refused (.notJson problem)) := by
  unfold decode
  rcases hread : Json.read room t with problem | d
  · cases problem with
    | malformed complaint line column position => exact ⟨_, rfl⟩
    | tooLong digits => exact ⟨_, rfl⟩
    | tooDeep array => exact absurd (Json.room_lt_nesting hread) (Nat.not_lt.mpr ht)
  · exact absurd ((Json.read_eq_ok_iff ht).mp hread) (hno d)

/-- Where there is room for its arrays and objects, a text is a request for an expression exactly when the
value that it spells is one. Any other value is refused for what it lacks, and what spells no value is
refused as such. -/
theorem decode_spelled {t : Text} (ht : nesting t ≤ room + 1) :
    (∀ d, Document t d →
      (∀ s, decode room t = .ok ⟨s⟩ ↔ Requests d s) ∧
        (∀ reason, decode room t = .error (.refused reason) ↔ Lacks d reason) ∧
        ((∃ s, Requests d s) ∨ ∃ reason, Lacks d reason)) ∧
      ((∀ d, ¬Document t d) → ∃ reason, decode room t = .error (.refused reason) ∧
        Text.ofString "Invalid JSON: " <+: reason.message) := by
  constructor
  · intro d hd
    obtain ⟨hdecode, hcases⟩ := decode_of_document ht hd
    rw [hdecode]
    exact ⟨ofDatum_eq_ok_iff d, ofDatum_eq_refused_iff d, hcases⟩
  · intro hno
    obtain ⟨problem, hdecode⟩ := decode_of_no_document ht hno
    exact ⟨_, hdecode, List.prefix_append _ _⟩

/-- A request with blanks, escapes and another member, whose expression is given twice. -/
def ornate : Text :=
  "\r\n \x7b\"expression\" : [1 ], \"at\":\x7b\"type\":null\x7d,\n" ++
    "\"type\": \"ev\\u0061luate\",\"expression\": \"\\uD83d\\ude00 \\\"\"\x7d\t"

theorem ornate_requests : nesting ornate ≤ 1 + 1 ∧
    ∃ d, Document ornate d ∧ Requests d "😀 \"" := by
  have hnesting : nesting ornate ≤ 1 + 1 := by decide +kernel
  have hdecode : decode 1 ornate = .ok ⟨"😀 \""⟩ := by decide +kernel
  obtain ⟨d, hdocument⟩ := exists_document hdecode
  exact ⟨hnesting, d, hdocument, (((decode_spelled hnesting).1 d hdocument).1 _).mp hdecode⟩

end Request
end LiveConsole
