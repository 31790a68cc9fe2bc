import LiveConsole.Proofs.Console.Containment
import LiveConsole.Proofs.Net.Frames

/-!
# The requests of a stream

A stream of octets asks for what its complete lines ask for, in their order; lines that are no requests
ask for nothing. Evaluating the expressions one after the other gives the responses, and the context
is passed on from each to the next.
-/

namespace LiveConsole
set_option autoImplicit false

open Net (newline frames lineText)

namespace Request

/-- The expression that a line asks for, if it is a request. -/
def asked? (room : Nat) (line : List UInt8) : Option Text :=
  match decode room (lineText line) with
  | .ok r => some r.expression
  | .error _ => none

/-- The expressions that a stream asks for. -/
def asked (room : Nat) (stream : List UInt8) : List Text := (frames stream).filterMap (asked? room)

variable {room : Nat}

theorem asked_line {line : List UInt8} (hline : newline ∉ line) (rest : List UInt8) :
    asked room (line ++ newline :: rest) = (asked? room line).toList ++ asked room rest := by
  rw [asked, Net.frames_line hline, List.filterMap_cons]
  cases asked? room line <;> rfl

theorem asked_of_not_mem {stream : List UInt8} (h : newline ∉ stream) : asked room stream = [] := by
  rw [asked, Net.frames_of_not_mem h]
  rfl

end Request

namespace Evaluator

variable {L : Language}

/-- Evaluates expressions in their order. An error that is passed on leaves no response. -/
def evaluateAll (c : Context L) : List Text → List Response × Context L
  | [] => ([], c)
  | e :: es =>
    match evaluate c e with
    | (.ok r, c) => (r :: (evaluateAll c es).1, (evaluateAll c es).2)
    | (.error _, c) => evaluateAll c es

/-- The context after expressions were evaluated one after the other. -/
def contextAfter (c : Context L) (es : List Text) : Context L :=
  es.foldl (fun c e => (evaluate c e).2) c

theorem evaluateAll_snd (c : Context L) (es : List Text) :
    (evaluateAll c es).2 = contextAfter c es := by
  induction es generalizing c with
  | nil => rfl
  | cons e es ih =>
    rw [contextAfter, List.foldl_cons]
    refine Eq.trans ?_ (ih _)
    rcases h : evaluate c e with ⟨_ | r, c'⟩
    · simp only [evaluateAll, h]
    · simp only [evaluateAll, h]

theorem evaluateAll_append (c : Context L) (es fs : List Text) :
    evaluateAll c (es ++ fs) = ((evaluateAll c es).1 ++ (evaluateAll (evaluateAll c es).2 fs).1,
      (evaluateAll (evaluateAll c es).2 fs).2) := by
  induction es generalizing c with
  | nil => rfl
  | cons e es ih =>
    rcases h : evaluate c e with ⟨_ | r, c'⟩
    · simp only [List.cons_append, evaluateAll, h, ih]
    · simp only [List.cons_append, evaluateAll, h, ih]

theorem handleLine_of_not_asked (c : Context L) {line : List UInt8}
    (h : Request.asked? L.room line = none) : (handleLine c (lineText line)).2 = c ∧
      ∀ r, (handleLine c (lineText line)).1 ≠ .ok (some r) := by
  unfold handleLine
  cases hempty : (lineText line).isEmpty with
  | true => simp
  | false =>
    cases hd : Request.decode L.room (lineText line) with
    | ok r => simp [Request.asked?, hd] at h
    | error e => cases e <;> simp

/-- Empty lines are passed over, but they are no requests either. -/
theorem handleLine_of_asked (c : Context L) {line : List UInt8} {e : Text}
    (h : Request.asked? L.room line = some e) :
    handleLine c (lineText line) =
      ((evaluate c e).1.mapError Escape.raised |>.map some, (evaluate c e).2) := by
  have hd : Request.decode L.room (lineText line) = .ok ⟨e⟩ := by
    cases hd : Request.decode L.room (lineText line) with
    | error f => simp [Request.asked?, hd] at h
    | ok r =>
      obtain rfl : r.expression = e := by simpa [Request.asked?, hd] using h
      rfl
  have hempty : (lineText line).isEmpty = false := by
    cases ht : lineText line with
    | nil =>
      rw [ht] at hd
      contradiction
    | cons a t => rfl
  rw [handleLine, hempty, hd, if_neg Bool.false_ne_true]
  dsimp only
  rcases evaluate c e with ⟨_ | r, c'⟩
  · rfl
  · rfl

theorem exists_text_of_evaluate (c : Context L) (e : Text) {r : Response}
    (h : (evaluate c e).1 = .ok r) :
    ∃ t b, r = ⟨.text Response.resultKind, .text t, .flag b⟩ := by
  rcases answers_or_leaves c e with ⟨r', hr, hanswers⟩ | ⟨f, hf, _⟩
  · obtain rfl := Except.ok.inj (h.symm.trans hr)
    cases hanswers with
    | uncompiled hcompile htell => exact ⟨_, _, rfl⟩
    | unfit hcompile hdiagnostic htell => exact ⟨_, _, rfl⟩
    | finished hcompile hrun => exact ⟨_, _, rfl⟩
    | failed hcompile hrun he hdescribe htell => exact ⟨_, _, rfl⟩
  · rw [h] at hf
    contradiction

theorem exists_encode_evaluate (c : Context L) (e : Text) {r : Response}
    (h : (evaluate c e).1 = .ok r) : ∃ octets, r.encode = .ok octets := by
  obtain ⟨t, b, rfl⟩ := exists_text_of_evaluate c e h
  exact ⟨_, rfl⟩

theorem exists_encode_connected (banner : Text) :
    ∃ octets, (Response.connected (.text banner)).encode = .ok octets :=
  ⟨_, rfl⟩

end Evaluator

end LiveConsole
