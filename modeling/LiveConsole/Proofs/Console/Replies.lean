import LiveConsole.Proofs.Message.RoundTrip
import LiveConsole.Proofs.Console.Requests

/-!
# Responses in their order

Of several expressions some are answered. The responses come in the order of the expressions, so a response
answers the expression before which as many were answered as there are responses before it.
-/

namespace LiveConsole
set_option autoImplicit false

open Net (newline)

namespace Evaluator

variable {L : Language}

theorem evaluateAll_concat (c : Context L) (es : List Text) (e : Text) :
    evaluateAll c (es ++ [e]) =
      ((evaluateAll c es).1 ++ (evaluate (evaluateAll c es).2 e).1.toOption.toList,
        (evaluate (evaluateAll c es).2 e).2) := by
  rw [evaluateAll_append]
  rcases he : evaluate (evaluateAll c es).2 e with ⟨x | r, c'⟩
  · simp [evaluateAll, he, Except.toOption]
  · simp [evaluateAll, he, Except.toOption]

/-- The response to one of several expressions that are evaluated in their order. -/
def responseTo (c : Context L) (es : List Text) (i : Nat) : Option Response :=
  es[i]?.bind fun e => (evaluate (contextAfter c (es.take i)) e).1.toOption

theorem responseTo_of_prefix {done es : List Text} (h : done <+: es) (c : Context L) {i : Nat}
    (hi : i < done.length) : responseTo c es i = responseTo c done i := by
  obtain ⟨rest, rfl⟩ := h
  rw [responseTo, responseTo, List.getElem?_append_left hi,
    List.take_append_of_le_length (Nat.le_of_lt hi)]

theorem length_evaluateAll_le (c : Context L) (es : List Text) :
    (evaluateAll c es).1.length ≤ es.length := by
  induction es generalizing c with
  | nil => exact Nat.le_refl _
  | cons e es ih =>
    rcases he : evaluate c e with ⟨x | r, c'⟩
    · simp only [evaluateAll, he, List.length_cons]
      exact Nat.le_succ_of_le (ih c')
    · simp only [evaluateAll, he, List.length_cons]
      exact Nat.succ_le_succ (ih c')

theorem length_evaluateAll_of_answered {c : Context L} {es : List Text}
    (h : ∀ i, i < es.length → ∃ r, responseTo c es i = some r) :
    (evaluateAll c es).1.length = es.length := by
  induction es generalizing c with
  | nil => rfl
  | cons e es ih =>
    obtain ⟨r, hr⟩ := h 0 (Nat.zero_lt_succ _)
    have hrest := ih (c := (evaluate c e).2) fun i hi => h (i + 1) (Nat.succ_lt_succ hi)
    rcases he : evaluate c e with ⟨x | r', c'⟩
    · simp [responseTo, contextAfter, he, Except.toOption] at hr
    · rw [he] at hrest
      simp only [evaluateAll, he, List.length_cons, hrest]

/-- A response answers the expression before which as many were answered as there are responses before
it. -/
theorem exists_responseTo {c : Context L} {es : List Text} {k : Nat} {r : Response}
    (h : (evaluateAll c es).1[k]? = some r) :
    ∃ i, i < es.length ∧ responseTo c es i = some r ∧
      (evaluateAll c (es.take i)).1.length = k := by
  induction es generalizing c k with
  | nil => contradiction
  | cons e es ih =>
    rcases he : evaluate c e with ⟨x | r', c'⟩
    · simp only [evaluateAll, he] at h
      obtain ⟨i, hi, hr, hk⟩ := ih h
      refine ⟨i + 1, Nat.succ_lt_succ hi, ?_, ?_⟩
      · simpa [responseTo, contextAfter, he] using hr
      · simpa [evaluateAll, he] using hk
    · simp only [evaluateAll, he] at h
      cases k with
      | zero =>
        obtain rfl := Option.some.inj h
        exact ⟨0, Nat.zero_lt_succ _, by simp [responseTo, contextAfter, he, Except.toOption], rfl⟩
      | succ k =>
        obtain ⟨i, hi, hr, hk⟩ := ih h
        refine ⟨i + 1, Nat.succ_lt_succ hi, ?_, ?_⟩
        · simpa [responseTo, contextAfter, he] using hr
        · simpa [evaluateAll, he] using hk

theorem exists_evaluate_of_mem {c : Context L} {es : List Text} {r : Response}
    (h : r ∈ (evaluateAll c es).1) : ∃ (c' : Context L) (e : Text), (evaluate c' e).1 = .ok r := by
  induction es generalizing c with
  | nil => contradiction
  | cons e es ih =>
    rcases he : evaluate c e with ⟨x | r', c'⟩
    · simp only [evaluateAll, he] at h
      exact ih h
    · simp only [evaluateAll, he] at h
      rcases List.mem_cons.mp h with rfl | h
      · exact ⟨c, e, by rw [he]⟩
      · exact ih h

end Evaluator

/-- What a client reads from the line of a response. -/
def Response.Tells (r : Response) (d : Datum) : Prop :=
  ∃ line, newline ∉ line ∧ r.encode = .ok (line ++ [newline]) ∧
    ∀ room, Net.Client.message? room line = .ok (some d)

theorem Response.exists_tells {r : Response} {data : List UInt8} (h : r.encode = .ok data) :
    ∃ d, r.Tells d := by
  obtain ⟨ms, rfl⟩ := exists_body h
  exact ⟨_, Message.body ms, Message.newline_not_mem_body ms, h,
    fun room => Message.message?_body room ms⟩

theorem Request.exists_line (room : Nat) (e : Text) : ∃ line, newline ∉ line ∧
    encode ⟨e⟩ = line ++ [newline] ∧ asked? room line = some e.soften := by
  refine ⟨_, Message.newline_not_mem_body _, Message.line_eq_body_append (members ⟨e⟩), ?_⟩
  rw [asked?, decode_lineText_body]

end LiveConsole
