import LiveConsole.Console.Evaluator
import LiveConsole.Console.Scripts
import LiveConsole.Proofs.Json.Literals
import LiveConsole.Proofs.Json.Nesting

/-!
# Lines that are no requests

A line that is no request is refused, and then nothing happens. The one exception are lines that nest
deeper than the reader can follow: they are not refused but break the reader. Even these leave the
context as it was.
-/

namespace LiveConsole
set_option autoImplicit false

open Json (nesting)

namespace Request

/-- Whatever a line says its type is can be told. -/
theorem ofDatum_ne_broken {d : Datum} (hd : d.HasLiteral) (how : Breakdown) :
    ofDatum d ≠ .error (.broken how) := by
  intro h
  cases d with
  | dict members =>
    have hmembers := Datum.hasLiterals_of_dict hd
    have htype : ((Datum.field? "type" members).getD .null).HasLiteral := by
      cases hfield : Datum.field? "type" members with
      | none => exact ⟨_, rfl⟩
      | some type => exact Datum.hasLiteral_of_field? hmembers hfield
    obtain ⟨shown, hshown⟩ := htype
    simp only [ofDatum, hshown] at h
    split at h
    · split at h <;> simp at h
    · simp at h
  | _ => simp [ofDatum] at h

/-- A line is a request, or is refused, or nests too deep. -/
theorem decode_cases (room : Nat) (line : Text) :
    (∃ r, decode room line = .ok r) ∨ (∃ reason, decode room line = .error (.refused reason)) ∨
      ∃ array, decode room line = .error (.broken (.tooDeep array)) ∧
        room + 1 < nesting line := by
  unfold decode
  rcases hread : Json.read room line with problem | d
  · cases problem with
    | malformed complaint l column position => exact .inr (.inl ⟨_, rfl⟩)
    | tooLong digits => exact .inr (.inl ⟨_, rfl⟩)
    | tooDeep array => exact .inr (.inr ⟨array, rfl, Json.room_lt_nesting hread⟩)
  · rcases hd : ofDatum d with f | r
    · cases f with
      | refused reason => exact .inr (.inl ⟨reason, hd⟩)
      | broken how => exact absurd hd (ofDatum_ne_broken (Json.hasLiteral_read hread) how)
    · exact .inl ⟨r, hd⟩

theorem decode_nil (room : Nat) :
    decode room [] = .error (.refused (.notJson (.malformed .expectingValue 1 1 0))) := rfl

theorem decode_brackets {room n : Nat} (hn : room + 1 < n) :
    decode room (List.replicate n (.scalar '[')) = .error (.broken (.tooDeep true)) := by
  obtain ⟨m, rfl⟩ := Nat.exists_eq_add_of_le hn
  rw [decode, ← List.replicate_append_replicate, Json.read_brackets]

end Request

namespace Evaluator

variable {L : Language}

theorem handleLine_refused (c : Context L) {line : Text} {reason : Request.Refusal}
    (h : Request.decode L.room line = .error (.refused reason)) : handleLine c line = (.ok none, c) := by
  unfold handleLine
  rw [h]
  exact ite_self _

theorem handleLine_broken (c : Context L) {line : Text} {how : Request.Breakdown}
    (h : Request.decode L.room line = .error (.broken how)) :
    handleLine c line = (.error (.broken how), c) := by
  have hline : line ≠ [] := by
    rintro rfl
    rw [Request.decode_nil] at h
    simp at h
  unfold handleLine
  rw [h, if_neg (by simp [hline])]

/-- What becomes of a line that is no request. -/
theorem handleLine_cases (c : Context L) (line : Text) :
    (∃ r, Request.decode L.room line = .ok r) ∨
      (∃ reason, Request.decode L.room line = .error (.refused reason)) ∧
        handleLine c line = (.ok none, c) ∨
      ∃ array, Request.decode L.room line = .error (.broken (.tooDeep array)) ∧
        L.room + 1 < nesting line ∧
        handleLine c line = (.error (.broken (.tooDeep array)), c) := by
  rcases Request.decode_cases L.room line with hok | ⟨reason, h⟩ | ⟨array, h, hdeep⟩
  · exact .inl hok
  · exact .inr (.inl ⟨⟨reason, h⟩, handleLine_refused c h⟩)
  · exact .inr (.inr ⟨array, h, hdeep, handleLine_broken c h⟩)

/-- Many brackets are no request, and they are not refused either. -/
theorem brackets_escape :
    ¬(∃ r, Request.decode scripts.room (List.replicate 5000 (.scalar '[')) = .ok r) ∧
      ¬(∃ reason, Request.decode scripts.room (List.replicate 5000 (.scalar '[')) =
        .error (.refused reason)) ∧
      (handleLine (Context.new "<repl>" : Context scripts)
        (List.replicate 5000 (.scalar '['))).1 = .error (.broken (.tooDeep true)) := by
  have hdeep : scripts.room + 1 < 5000 := by decide
  have hdecode := Request.decode_brackets hdeep
  generalize List.replicate 5000 (CodePoint.scalar '[') = line at hdecode ⊢
  refine ⟨?_, ?_, ?_⟩
  · rintro ⟨r, h⟩
    rw [hdecode] at h
    contradiction
  · rintro ⟨reason, h⟩
    rw [hdecode] at h
    simp at h
  · exact congrArg Prod.fst (handleLine_broken _ hdecode)

end Evaluator
end LiveConsole
