import LiveConsole.Console.Evaluator
import LiveConsole.Console.Scripts
import LiveConsole.Proofs.Object.Telling

/-!
# What leaves an evaluation

In any language an evaluation answers with a response whatever the evaluated text does, but for errors of
a few sorts: one that asks for an end while the text is compiled, one that asks the console to stop while
it runs, and one that comes up while a diagnostic or another error is told.
-/

namespace LiveConsole
set_option autoImplicit false

namespace Language

variable {L : Language}

/-- The steps of telling an error that can fail. -/
inductive Mumbles (e : L.Error) (s : L.State) : L.Error → L.State → Prop where
  | message {e' : L.Error} {s' : L.State} (h : L.message e s = (.error e', s')) :
      Mumbles e s e' s'
  | kindName {message : L.Value} {e' : L.Error} {s₁ s' : L.State}
      (hmessage : L.message e s = (.ok message, s₁)) (h : L.kindName e s₁ = (.error e', s')) :
      Mumbles e s e' s'
  | holds {message kind : L.Value} {e' : L.Error} {s₁ s₂ s' : L.State}
      (hmessage : L.message e s = (.ok message, s₁)) (hkind : L.kindName e s₁ = (.ok kind, s₂))
      (h : L.holds message s₂ = (.error e', s')) : Mumbles e s e' s'
  | line {message kind : L.Value} {e' : L.Error} {s₁ s₂ s₃ s' : L.State}
      (hmessage : L.message e s = (.ok message, s₁)) (hkind : L.kindName e s₁ = (.ok kind, s₂))
      (hholds : L.holds message s₂ = (.ok true, s₃)) (h : L.line kind message s₃ = (.error e', s')) :
      Mumbles e s e' s'

/-- A description fails exactly where one of its steps does. -/
theorem describe_eq_error_iff {e e' : L.Error} {s s' : L.State} :
    L.describe e s = (.error e', s') ↔ Mumbles e s e' s' := by
  constructor
  · intro h
    rw [describe] at h
    rcases hmessage : L.message e s with ⟨e₁ | message, s₁⟩
    · rw [hmessage] at h
      cases h
      exact .message hmessage
    rcases hkind : L.kindName e s₁ with ⟨e₂ | kind, s₂⟩
    · simp only [hmessage, hkind] at h
      cases h
      exact .kindName hmessage hkind
    rcases hholds : L.holds message s₂ with ⟨e₃ | _ | _, s₃⟩
    · simp only [hmessage, hkind, hholds] at h
      cases h
      exact .holds hmessage hkind hholds
    · simp [hmessage, hkind, hholds] at h
    · simp only [hmessage, hkind, hholds] at h
      exact .line hmessage hkind hholds h
  · intro h
    rw [describe]
    cases h with
    | message h => rw [h]
    | kindName hmessage h => simp only [hmessage, h]
    | holds hmessage hkind h => simp only [hmessage, hkind, h]
    | line hmessage hkind hholds h => simp only [hmessage, hkind, hholds, h]

end Language

namespace Evaluator

open LiveConsole.Language (Mumbles describe_eq_error_iff)

variable {L : Language}

/-- What compiling can come to, and when. -/
inductive Compiles (file text : Text) (s : L.State) :
    Except (Failure L) (Compiled L) × L.State → Prop where
  | expression {code : L.Code} {s' : L.State}
      (h : L.compile .expression file text s = (.ok code, s')) :
      Compiles file text s (.ok ⟨.expression, code⟩, s')
  | halted {e : L.Error} {s' : L.State} (h : L.compile .expression file text s = (.error e, s'))
      (he : L.isOrdinary s' e = false) : Compiles file text s (.error (.raised e), s')
  | statements {e : L.Error} {code : L.Code} {s₁ s' : L.State}
      (h : L.compile .expression file text s = (.error e, s₁)) (he : L.isOrdinary s₁ e = true)
      (h' : L.compile .statements file text s₁ = (.ok code, s')) :
      Compiles file text s (.ok ⟨.statements, code⟩, s')
  | haltedAgain {e e' : L.Error} {s₁ s' : L.State}
      (h : L.compile .expression file text s = (.error e, s₁)) (he : L.isOrdinary s₁ e = true)
      (h' : L.compile .statements file text s₁ = (.error e', s'))
      (he' : L.isOrdinary s' e' = false) : Compiles file text s (.error (.raised e'), s')
  | diagnosed {e e' : L.Error} {diagnostic : L.Value} {s₁ s₂ s' : L.State}
      (h : L.compile .expression file text s = (.error e, s₁)) (he : L.isOrdinary s₁ e = true)
      (h' : L.compile .statements file text s₁ = (.error e', s₂))
      (he' : L.isOrdinary s₂ e' = true) (hmessage : L.message e' s₂ = (.ok diagnostic, s')) :
      Compiles file text s (.error (.diagnosed diagnostic), s')
  | undiagnosed {e e' e'' : L.Error} {s₁ s₂ s' : L.State}
      (h : L.compile .expression file text s = (.error e, s₁)) (he : L.isOrdinary s₁ e = true)
      (h' : L.compile .statements file text s₁ = (.error e', s₂))
      (he' : L.isOrdinary s₂ e' = true) (hmessage : L.message e' s₂ = (.error e'', s')) :
      Compiles file text s (.error (.raised e''), s')

theorem compiling (file text : Text) (s : L.State) :
    Compiles file text s (compile (L := L) file text s) := by
  unfold compile
  rcases h : L.compile .expression file text s with ⟨e | code, s₁⟩
  · dsimp only
    by_cases he : L.isOrdinary s₁ e = true
    · rw [if_pos he, compileStatements]
      rcases h' : L.compile .statements file text s₁ with ⟨e' | code, s₂⟩
      · dsimp only
        by_cases he' : L.isOrdinary s₂ e' = true
        · rw [if_pos he', diagnose]
          rcases hmessage : L.message e' s₂ with ⟨e'' | diagnostic, s₃⟩
          · exact .undiagnosed h he h' he' hmessage
          · exact .diagnosed h he h' he' hmessage
        · rw [if_neg he']
          exact .haltedAgain h he h' (eq_false_of_ne_true he')
      · exact .statements h he h'
    · rw [if_neg he]
      exact .halted h (eq_false_of_ne_true he)
  · exact .expression h

/-- The responses that an evaluation can end in, and when. -/
inductive Answers (c : Context L) (text : Text) : Response → Prop where
  | uncompiled {diagnostic : L.Value} {t : Text} {s s' : L.State}
      (hcompile : compile c.file text c.state = (.error (.diagnosed diagnostic), s))
      (htell : L.behind compileErrorMark diagnostic s = (.ok t, s')) :
      Answers c text (.failed (.text t))
  | unfit {e : L.Error} {diagnostic : L.Value} {t : Text} {s s₁ s' : L.State}
      (hcompile : compile c.file text c.state = (.error (.raised e), s))
      (hdiagnostic : L.diagnostic? e s = some (.ok diagnostic, s₁))
      (htell : L.behind compileErrorMark diagnostic s₁ = (.ok t, s')) :
      Answers c text (.failed (.text t))
  | finished {u : Compiled L} {shown : Text} {s s' : L.State}
      (hcompile : compile c.file text c.state = (.ok u, s)) (hrun : run u s = (.ok shown, s')) :
      Answers c text (.ok (.text shown))
  | failed {u : Compiled L} {e : L.Error} {described : L.Value} {t : Text} {s s₁ s₂ s' : L.State}
      (hcompile : compile c.file text c.state = (.ok u, s)) (hrun : run u s = (.error e, s₁))
      (he : L.interrupts s₁ e = false) (hdescribe : L.describe e s₁ = (.ok described, s₂))
      (htell : L.behind runErrorMark described s₂ = (.ok t, s')) :
      Answers c text (.failed (.text t))

/-- The errors that an evaluation passes on, and when. -/
inductive Leaves (c : Context L) (text : Text) : L.Error → Prop where
  /-- An attempt to compile ends with an error that is not ordinary, or its diagnostic cannot be told. -/
  | halted {e : L.Error} {s : L.State}
      (hcompile : compile c.file text c.state = (.error (.raised e), s))
      (hdiagnostic : L.diagnostic? e s = none) : Leaves c text e
  | undiagnosed {e e' : L.Error} {s s' : L.State}
      (hcompile : compile c.file text c.state = (.error (.raised e), s))
      (hdiagnostic : L.diagnostic? e s = some (.error e', s')) : Leaves c text e'
  /-- A diagnostic cannot stand behind its mark. -/
  | unmarked {why : Failure L} {diagnostic : L.Value} {e : L.Error} {s s₁ s' : L.State}
      (hcompile : compile c.file text c.state = (.error why, s))
      (hwhy : why = .diagnosed diagnostic ∧ s₁ = s ∨
        ∃ e', why = .raised e' ∧ L.diagnostic? e' s = some (.ok diagnostic, s₁))
      (htell : L.behind compileErrorMark diagnostic s₁ = (.error e, s')) : Leaves c text e
  | interrupted {u : Compiled L} {e : L.Error} {s s' : L.State}
      (hcompile : compile c.file text c.state = (.ok u, s)) (hrun : run u s = (.error e, s'))
      (he : L.interrupts s' e = true) : Leaves c text e
  /-- An error of the text cannot be described. -/
  | undescribed {u : Compiled L} {e e' : L.Error} {s s₁ s' : L.State}
      (hcompile : compile c.file text c.state = (.ok u, s)) (hrun : run u s = (.error e, s₁))
      (he : L.interrupts s₁ e = false) (hmumbles : Mumbles e s₁ e' s') : Leaves c text e'
  /-- Its description cannot stand behind its mark. -/
  | untold {u : Compiled L} {e e' : L.Error} {described : L.Value} {s s₁ s₂ s' : L.State}
      (hcompile : compile c.file text c.state = (.ok u, s)) (hrun : run u s = (.error e, s₁))
      (he : L.interrupts s₁ e = false) (hdescribe : L.describe e s₁ = (.ok described, s₂))
      (htell : L.behind runErrorMark described s₂ = (.error e', s')) : Leaves c text e'

theorem tell_of_ok {mark t : Text} {v : L.Value} {s s' : L.State}
    (h : L.behind mark v s = (.ok t, s')) : tell mark v s = (.ok (.failed (.text t)), s') := by
  rw [tell, h]

theorem tell_of_error {mark : Text} {v : L.Value} {e : L.Error} {s s' : L.State}
    (h : L.behind mark v s = (.error e, s')) : tell mark v s = (.error e, s') := by
  rw [tell, h]

section Evaluate
variable {c : Context L} {text : Text}

theorem evaluate_of_refused {why : Failure L} {s : L.State}
    (h : compile c.file text c.state = (.error why, s)) :
    evaluate c text = ((refuse why s).1, { c with state := (refuse why s).2 }) := by
  rw [evaluate, h]

theorem evaluate_of_compiled {u : Compiled L} {s : L.State}
    (h : compile c.file text c.state = (.ok u, s)) :
    evaluate c text = ((respond u s).1, { c with state := L.settle (respond u s).2 }) := by
  rw [evaluate, h]

theorem fail_of_described {e : L.Error} {v : L.Value} {s s' : L.State}
    (he : L.interrupts s e = false) (hdescribe : L.describe e s = (.ok v, s')) :
    fail e s = tell runErrorMark v s' := by
  rw [fail, if_neg (by simp [he]), hdescribe]

end Evaluate

theorem respond_of_fail {u : Compiled L} {e : L.Error} {s s' : L.State}
    (hrun : run u s = (.error e, s')) : respond u s = fail e s' := by
  rw [respond, hrun]

theorem refuse_of_diagnostic {e : L.Error} {diagnostic : L.Value} {s s' : L.State}
    (h : L.diagnostic? e s = some (.ok diagnostic, s')) :
    refuse (.raised e) s = tell compileErrorMark diagnostic s' := by
  rw [refuse, h]

theorem answers_or_leaves (c : Context L) (text : Text) :
    (∃ r, (evaluate c text).1 = .ok r ∧ Answers c text r) ∨
      ∃ e, (evaluate c text).1 = .error e ∧ Leaves c text e := by
  rcases hcompile : compile c.file text c.state with ⟨why | u, s⟩
  · rw [evaluate_of_refused hcompile]
    rcases why with diagnostic | e
    · rcases htell : L.behind compileErrorMark diagnostic s with ⟨e | t, s'⟩
      · exact .inr ⟨e, congrArg Prod.fst (tell_of_error htell),
          .unmarked hcompile (.inl ⟨rfl, rfl⟩) htell⟩
      · exact .inl ⟨_, congrArg Prod.fst (tell_of_ok htell), .uncompiled hcompile htell⟩
    · rcases hdiagnostic : L.diagnostic? e s with _ | ⟨e' | diagnostic, s₁⟩
      · refine .inr ⟨e, ?_, .halted hcompile hdiagnostic⟩
        rw [refuse, hdiagnostic]
      · refine .inr ⟨e', ?_, .undiagnosed hcompile hdiagnostic⟩
        rw [refuse, hdiagnostic]
      · rw [refuse_of_diagnostic hdiagnostic]
        rcases htell : L.behind compileErrorMark diagnostic s₁ with ⟨e' | t, s'⟩
        · exact .inr ⟨e', congrArg Prod.fst (tell_of_error htell),
            .unmarked hcompile (.inr ⟨e, rfl, hdiagnostic⟩) htell⟩
        · exact .inl ⟨_, congrArg Prod.fst (tell_of_ok htell), .unfit hcompile hdiagnostic htell⟩
  · rw [evaluate_of_compiled hcompile]
    rcases hrun : run u s with ⟨e | shown, s₁⟩
    · rw [respond_of_fail hrun]
      by_cases he : L.interrupts s₁ e = true
      · refine .inr ⟨e, ?_, .interrupted hcompile hrun he⟩
        rw [fail, if_pos he]
      · have hgoes := eq_false_of_ne_true he
        rcases hdescribe : L.describe e s₁ with ⟨e' | described, s₂⟩
        · refine .inr ⟨e', ?_,
            .undescribed hcompile hrun hgoes (describe_eq_error_iff.mp hdescribe)⟩
          rw [fail, if_neg he, hdescribe]
        · rw [fail_of_described hgoes hdescribe]
          rcases htell : L.behind runErrorMark described s₂ with ⟨e' | t, s'⟩
          · exact .inr ⟨e', congrArg Prod.fst (tell_of_error htell),
              .untold hcompile hrun hgoes hdescribe htell⟩
          · exact .inl ⟨_, congrArg Prod.fst (tell_of_ok htell),
              .failed hcompile hrun hgoes hdescribe htell⟩
    · refine .inl ⟨_, ?_, .finished hcompile hrun⟩
      rw [respond, hrun]

theorem Answers.evaluate {c : Context L} {text : Text} {r : Response} (h : Answers c text r) :
    (evaluate c text).1 = .ok r := by
  cases h with
  | uncompiled hcompile htell =>
    rw [evaluate_of_refused hcompile]
    exact congrArg Prod.fst (tell_of_ok htell)
  | unfit hcompile hdiagnostic htell =>
    rw [evaluate_of_refused hcompile, refuse_of_diagnostic hdiagnostic, tell_of_ok htell]
  | finished hcompile hrun => rw [evaluate_of_compiled hcompile, respond, hrun]
  | failed hcompile hrun he hdescribe htell =>
    rw [evaluate_of_compiled hcompile, respond_of_fail hrun, fail_of_described he hdescribe,
      tell_of_ok htell]

theorem Leaves.evaluate {c : Context L} {text : Text} {e : L.Error} (h : Leaves c text e) :
    (evaluate c text).1 = .error e := by
  cases h with
  | halted hcompile hdiagnostic => rw [evaluate_of_refused hcompile, refuse, hdiagnostic]
  | undiagnosed hcompile hdiagnostic => rw [evaluate_of_refused hcompile, refuse, hdiagnostic]
  | unmarked hcompile hwhy htell =>
    rw [evaluate_of_refused hcompile]
    rcases hwhy with ⟨rfl, rfl⟩ | ⟨e', rfl, hdiagnostic⟩
    · exact congrArg Prod.fst (tell_of_error htell)
    · rw [refuse_of_diagnostic hdiagnostic, tell_of_error htell]
  | interrupted hcompile hrun he =>
    rw [evaluate_of_compiled hcompile, respond_of_fail hrun, fail, if_pos he]
  | undescribed hcompile hrun he hmumbles =>
    rw [evaluate_of_compiled hcompile, respond_of_fail hrun, fail, if_neg (by simp [he]),
      describe_eq_error_iff.mpr hmumbles]
  | untold hcompile hrun he hdescribe htell =>
    rw [evaluate_of_compiled hcompile, respond_of_fail hrun, fail_of_described he hdescribe,
      tell_of_error htell]

/-- The error of a script that can be told is answered, and telling it leaves the script as it was. -/
theorem scripts_told {c : Context scripts} {text : Text} {u : Compiled scripts} {v : Value}
    {m m' : Machine} (hcompile : compile c.file text c.state = (.ok u, m))
    (hrun : run u m = (.error (.raised v), m'))
    (hv : scripts.interrupts m' (.raised v) = false) (htells : m'.tells v = true) :
    ∃ t, evaluate c text =
      (.ok (.failed (.text (runErrorMark ++ t))), { c with state := m' }) := by
  obtain ⟨⟨message, hplain⟩, hname⟩ := Machine.told_of_tells htells Interpreter.full
  have hmessage : scripts.message (.raised v) m' = (.ok (.text message), m') := by
    change Scripts.on m' (do return Value.text (← Interpreter.full.plain v)) = _
    rw [Scripts.on, ExceptT.run_bind, StateT.run_bind, hplain]
    rfl
  have hkind : scripts.kindName (.raised v) m' = (.ok (.text (m'.typeName v)), m') := by
    change Scripts.on m' (Field.read (m'.typeOf v) "__name__") = _
    rw [Scripts.on, hname]
    rfl
  have hholds : scripts.holds (.text message) m' = (.ok (!message.isEmpty), m') := rfl
  have hdescribe : ∃ t, scripts.describe (.raised v) m' = (.ok (.text t), m') := by
    unfold Language.describe
    simp only [hmessage, hkind, hholds]
    cases message.isEmpty with
    | true => exact ⟨_, rfl⟩
    | false => exact ⟨_, rfl⟩
  obtain ⟨t, ht⟩ := hdescribe
  refine ⟨t, ?_⟩
  rw [evaluate_of_compiled hcompile, respond_of_fail hrun, fail_of_described hv ht]
  rfl

end Evaluator
end LiveConsole
