import LiveConsole.Proofs.Console.Containment

/-!
# What an evaluation does

A language can write down what is done to its states, apart from which it is the same language. In it an
evaluation writes down at most one run, and the state that it ends in is the one that comes of what it
wrote down.
-/

namespace LiveConsole
set_option autoImplicit false

namespace Language

variable {L : Language}

/-- What can change a state. -/
inductive Act (L : Language) where
  | compile (mode : Script.Mode) (file text : Text)
  | run (mode : Script.Mode) (code : L.Code)
  | literal (v : L.Value)
  | message (e : L.Error)
  | kindName (e : L.Error)
  | holds (v : L.Value)
  | line (kind message : L.Value)
  | behind (mark : Text) (v : L.Value)
  | diagnostic (e : L.Error)
  | settle

namespace Act

def after : Act L → L.State → L.State
  | .compile mode file text, s => (L.compile mode file text s).2
  | .run .expression code, s => (L.evaluate code s).2
  | .run .statements code, s => (L.execute code s).2
  | .literal v, s => (L.literal v s).2
  | .message e, s => (L.message e s).2
  | .kindName e, s => (L.kindName e s).2
  | .holds v, s => (L.holds v s).2
  | .line k m, s => (L.line k m s).2
  | .behind mark v, s => (L.behind mark v s).2
  | .diagnostic e, s => ((L.diagnostic? e s).map Prod.snd).getD s
  | .settle, s => L.settle s

/-- Whether an act runs compiled code. -/
def isRun : Act L → Bool
  | .run _ _ => true
  | _ => false

end Act

def replay (acts : List (Act L)) (s : L.State) : L.State :=
  acts.foldl (fun s a => a.after s) s

theorem replay_cons (a : Act L) (acts : List (Act L)) (s : L.State) :
    replay (a :: acts) s = replay acts (a.after s) := rfl

theorem replay_append (acts later : List (Act L)) (s : L.State) :
    replay (acts ++ later) s = replay later (replay acts s) :=
  List.foldl_append

/-- What changes nothing can be repeated. -/
theorem replay_eq_self {acts : List (Act L)} {s : L.State} (h : ∀ a ∈ acts, a.after s = s) :
    replay acts s = s := by
  induction acts with
  | nil => rfl
  | cons a acts ih =>
    obtain ⟨ha, hacts⟩ := List.forall_mem_cons.mp h
    rw [replay_cons, ha, ih hacts]

/-- The language with the acts written down beside each state. -/
abbrev traced (L : Language) : Language where
  room := L.room
  State := L.State × List (Act L)
  Code := L.Code
  Value := L.Value
  Error := L.Error
  compile mode file text x := ((L.compile mode file text x.1).1, (L.compile mode file text x.1).2,
    x.2 ++ [.compile mode file text])
  evaluate code x := ((L.evaluate code x.1).1, (L.evaluate code x.1).2, x.2 ++ [.run .expression code])
  execute code x := ((L.execute code x.1).1, (L.execute code x.1).2, x.2 ++ [.run .statements code])
  literal v x := ((L.literal v x.1).1, (L.literal v x.1).2, x.2 ++ [.literal v])
  message e x := ((L.message e x.1).1, (L.message e x.1).2, x.2 ++ [.message e])
  kindName e x := ((L.kindName e x.1).1, (L.kindName e x.1).2, x.2 ++ [.kindName e])
  holds v x := ((L.holds v x.1).1, (L.holds v x.1).2, x.2 ++ [.holds v])
  line kind message x := ((L.line kind message x.1).1, (L.line kind message x.1).2,
    x.2 ++ [.line kind message])
  behind mark v x := ((L.behind mark v x.1).1, (L.behind mark v x.1).2, x.2 ++ [.behind mark v])
  diagnostic? e x := (L.diagnostic? e x.1).map fun a => (a.1, a.2, x.2 ++ [.diagnostic e])
  isOrdinary x := L.isOrdinary x.1
  interrupts x := L.interrupts x.1
  settle x := (L.settle x.1, x.2 ++ [.settle])
  initial := (L.initial, [])
  names x := L.names x.1
  find? x := L.find? x.1
  define name d x := (L.define name d x.1, x.2)

/-- The language with other statements. -/
abbrev withStatements (L : Language)
    (compile : Text → Text → L.State → Except L.Error L.Code × L.State)
    (execute : L.Code → L.State → Except L.Error Unit × L.State) : Language :=
  { L with
    compile := fun
      | .expression => L.compile .expression
      | .statements => compile
    execute := execute }

end Language

namespace Evaluator

open LiveConsole.Language (Act replay replay_cons replay_append replay_eq_self)

variable {L : Language}

/-- The acts by which a text is compiled as statements. -/
def compilingStatements (file text : Text) (s : L.State) : List (Act L) :=
  .compile .statements file text ::
    match L.compile .statements file text s with
    | (.ok _, _) => []
    | (.error e, s) => if L.isOrdinary s e then [.message e] else []

/-- The acts by which a text is compiled. -/
def compilingActs (file text : Text) (s : L.State) : List (Act L) :=
  .compile .expression file text ::
    match L.compile .expression file text s with
    | (.ok _, _) => []
    | (.error e, s) => if L.isOrdinary s e then compilingStatements file text s else []

/-- The acts by which it is told that a text is not run. -/
def refusing (why : Failure L) (s : L.State) : List (Act L) :=
  match why with
  | .diagnosed diagnostic => [.behind compileErrorMark diagnostic]
  | .raised e =>
    match L.diagnostic? e s with
    | some (.ok diagnostic, _) => [.diagnostic e, .behind compileErrorMark diagnostic]
    | some (.error _, _) => [.diagnostic e]
    | none => []

/-- The acts by which an error is described. -/
def describing (e : L.Error) (s : L.State) : List (Act L) :=
  .message e ::
    match L.message e s with
    | (.error _, _) => []
    | (.ok message, s) =>
      .kindName e ::
        match L.kindName e s with
        | (.error _, _) => []
        | (.ok kind, s) =>
          .holds message ::
            match L.holds message s with
            | (.ok true, _) => [.line kind message]
            | _ => []

/-- The acts by which an error is told. -/
def telling (e : L.Error) (s : L.State) : List (Act L) :=
  if L.interrupts s e then []
  else describing e s ++
    match L.describe e s with
    | (.ok described, _) => [.behind runErrorMark described]
    | (.error _, _) => []

/-- The acts by which a compiled text is run. -/
def running (mode : Script.Mode) (code : L.Code) (s : L.State) : List (Act L) :=
  .run mode code ::
    match mode with
    | .expression =>
      match (L.evaluate code s).1 with
      | .ok v => [.literal v]
      | .error _ => []
    | .statements => []

/-- The acts after a run. -/
def afterwards : Except L.Error Text × L.State → List (Act L)
  | (.ok _, _) => [.settle]
  | (.error e, s) => telling e s ++ [.settle]

/-- The acts of an evaluation. -/
def acts (c : Context L) (text : Text) : List (Act L) :=
  compilingActs c.file text c.state ++
    match compile (L := L) c.file text c.state with
    | (.error why, s) => refusing why s
    | (.ok u, s) => running u.mode u.code s ++ afterwards (run u s)

section Traced
variable (log : List (Act L))

def Compiled.traced (u : Compiled L) : Compiled L.traced := ⟨u.mode, u.code⟩

def Failure.traced : Failure L → Failure L.traced
  | .diagnosed d => .diagnosed d
  | .raised e => .raised e

/-- What compiling comes to is the same in the traced language. -/
def outcomeTraced : Except (Failure L) (Compiled L) → Except (Failure L.traced) (Compiled L.traced)
  | .ok u => .ok u.traced
  | .error why => .error why.traced

theorem compileStatements_traced (file text : Text) (s : L.State) :
    compileStatements (L := L.traced) file text (s, log) =
      (outcomeTraced (compileStatements (L := L) file text s).1,
        (compileStatements (L := L) file text s).2, log ++ compilingStatements file text s) := by
  rcases h : L.compile .statements file text s with ⟨e | code, s₁⟩
  · by_cases he : L.isOrdinary s₁ e = true
    · rcases hmessage : L.message e s₁ with ⟨e' | d, s₂⟩ <;>
        simp [compileStatements, compilingStatements, diagnose, h, he, hmessage, outcomeTraced,
          Failure.traced]
    · simp [compileStatements, compilingStatements, h, he, outcomeTraced, Failure.traced]
  · simp [compileStatements, compilingStatements, h, outcomeTraced, Compiled.traced]

theorem compile_traced (file text : Text) (s : L.State) :
    compile (L := L.traced) file text (s, log) =
      (outcomeTraced (compile (L := L) file text s).1,
        (compile (L := L) file text s).2, log ++ compilingActs file text s) := by
  rcases h : L.compile .expression file text s with ⟨e | code, s₁⟩
  · by_cases he : L.isOrdinary s₁ e = true
    · simp [compile, compilingActs, h, he, compileStatements_traced]
    · simp [compile, compilingActs, h, he, outcomeTraced, Failure.traced]
  · simp [compile, compilingActs, h, outcomeTraced, Compiled.traced]

theorem tell_traced (mark : Text) (v : L.Value) (s : L.State) :
    tell (L := L.traced) mark v (s, log) =
      ((tell mark v s).1, (tell mark v s).2, log ++ [.behind mark v]) := by
  rcases h : L.behind mark v s with ⟨e | t, s'⟩ <;> simp [tell, h]

theorem refuse_traced (why : Failure L) (s : L.State) :
    refuse (L := L.traced) why.traced (s, log) =
      ((refuse why s).1, (refuse why s).2, log ++ refusing why s) := by
  cases why with
  | diagnosed d => simp [refuse, refusing, Failure.traced, tell_traced]
  | raised e =>
    rcases h : L.diagnostic? e s with _ | ⟨e' | d, s'⟩ <;>
      simp [refuse, refusing, Failure.traced, h, tell_traced]

theorem run_traced (mode : Script.Mode) (code : L.Code) (s : L.State) :
    run (L := L.traced) ⟨mode, code⟩ (s, log) =
      ((run ⟨mode, code⟩ s).1, (run ⟨mode, code⟩ s).2, log ++ running mode code s) := by
  cases mode with
  | expression => rcases hrun : L.evaluate code s with ⟨_ | v, s'⟩ <;> simp [run, running, hrun]
  | statements => rcases hrun : L.execute code s with ⟨_ | u, s'⟩ <;> simp [run, running, hrun]

theorem describe_traced (e : L.Error) (s : L.State) :
    L.traced.describe e (s, log) =
      ((L.describe e s).1, (L.describe e s).2, log ++ describing e s) := by
  unfold Language.describe describing
  rcases hmessage : L.message e s with ⟨_ | message, s₁⟩
  · simp [hmessage]
  rcases hkind : L.kindName e s₁ with ⟨_ | kind, s₂⟩
  · simp [hmessage, hkind]
  rcases hholds : L.holds message s₂ with ⟨_ | _ | _, s₃⟩ <;>
    simp [hmessage, hkind, hholds]

theorem fail_traced (e : L.Error) (s : L.State) :
    fail (L := L.traced) e (s, log) = ((fail e s).1, (fail e s).2, log ++ telling e s) := by
  by_cases he : L.interrupts s e = true
  · simp [fail, telling, he]
  · rcases hdescribe : L.describe e s with ⟨_ | described, s'⟩ <;>
      simp [fail, telling, he, describe_traced, hdescribe, tell_traced]

theorem evaluate_traced (c : Context L) (text : Text) :
    evaluate (L := L.traced) ⟨c.file, c.state, log⟩ text =
      ((evaluate c text).1, ⟨c.file, (evaluate c text).2.state, log ++ acts c text⟩) := by
  unfold evaluate acts
  rw [compile_traced]
  rcases compile (L := L) c.file text c.state with ⟨why | ⟨mode, code⟩, s⟩
  · simp [outcomeTraced, refuse_traced]
  · simp only [outcomeTraced, Compiled.traced, respond, run_traced]
    rcases run ⟨mode, code⟩ s with ⟨e | shown, s'⟩
    · simp [fail_traced, afterwards]
    · simp [afterwards]

end Traced

theorem replay_compilingStatements (file text : Text) (s : L.State) :
    replay (compilingStatements file text s) s = (compileStatements (L := L) file text s).2 := by
  rcases h : L.compile .statements file text s with ⟨e | code, s₁⟩
  · by_cases he : L.isOrdinary s₁ e = true
    · rcases hmessage : L.message e s₁ with ⟨e' | d, s₂⟩ <;>
        simp [compileStatements, compilingStatements, diagnose, replay, Act.after, h, he, hmessage]
    · simp [compileStatements, compilingStatements, replay, Act.after, h, he]
  · simp [compileStatements, compilingStatements, replay, Act.after, h]

theorem replay_compilingActs (file text : Text) (s : L.State) :
    replay (compilingActs file text s) s = (compile (L := L) file text s).2 := by
  rw [compilingActs, replay_cons, Act.after]
  rcases h : L.compile .expression file text s with ⟨e | code, s₁⟩
  · by_cases he : L.isOrdinary s₁ e = true
    · simp [compile, h, he, replay_compilingStatements]
    · simp [compile, h, he, replay]
  · simp [compile, h, replay]

theorem replay_behind (mark : Text) (v : L.Value) (s : L.State) :
    replay [.behind mark v] s = (tell mark v s).2 := by
  rcases h : L.behind mark v s with ⟨e | t, s'⟩ <;> simp [tell, replay, Act.after, h]

theorem replay_refusing (why : Failure L) (s : L.State) :
    replay (refusing why s) s = (refuse why s).2 := by
  cases why with
  | diagnosed d => exact replay_behind compileErrorMark d s
  | raised e =>
    rcases h : L.diagnostic? e s with _ | ⟨e' | d, s'⟩
    · simp [refuse, refusing, replay, h]
    · simp [refuse, refusing, replay, Act.after, h]
    · simp only [refuse, refusing, h]
      rw [replay_cons, replay_behind]
      simp [Act.after, h]

theorem replay_running (mode : Script.Mode) (code : L.Code) (s : L.State) :
    replay (running mode code s) s = (run ⟨mode, code⟩ s).2 := by
  cases mode with
  | expression =>
    rcases hrun : L.evaluate code s with ⟨_ | v, s'⟩ <;>
      simp [run, running, replay, Act.after, hrun]
  | statements =>
    rcases hrun : L.execute code s with ⟨_ | u, s'⟩ <;>
      simp [run, running, replay, Act.after, hrun]

theorem replay_describing (e : L.Error) (s : L.State) :
    replay (describing e s) s = (L.describe e s).2 := by
  unfold Language.describe describing
  rcases hmessage : L.message e s with ⟨_ | message, s₁⟩
  · simp [replay, Act.after, hmessage]
  rcases hkind : L.kindName e s₁ with ⟨_ | kind, s₂⟩
  · simp [replay, Act.after, hmessage, hkind]
  rcases hholds : L.holds message s₂ with ⟨_ | _ | _, s₃⟩ <;>
    simp [replay, Act.after, hmessage, hkind, hholds]

theorem replay_telling (e : L.Error) (s : L.State) : replay (telling e s) s = (fail e s).2 := by
  by_cases he : L.interrupts s e = true
  · simp [fail, telling, replay, he]
  · rw [telling, if_neg he, replay_append, replay_describing, fail, if_neg he]
    rcases L.describe e s with ⟨_ | described, s'⟩
    · rfl
    · exact replay_behind runErrorMark described s'

theorem replay_afterwards (u : Compiled L) (s : L.State) :
    replay (afterwards (run u s)) (run u s).2 = L.settle (respond u s).2 := by
  rw [respond]
  rcases run u s with ⟨e | shown, s'⟩
  · rw [afterwards, replay_append, replay_telling]
    rfl
  · rfl

/-- An evaluation ends in the state that comes of its acts. -/
theorem replay_acts (c : Context L) (text : Text) :
    (evaluate c text).2 = ⟨c.file, replay (acts c text) c.state⟩ := by
  rw [acts, replay_append, replay_compilingActs]
  rcases h : compile (L := L) c.file text c.state with ⟨why | u, s⟩
  · rw [evaluate_of_refused h, replay_refusing]
  · rw [evaluate_of_compiled h, replay_append, replay_running, replay_afterwards]

theorem runs_compilingActs (file text : Text) (s : L.State) :
    (compilingActs (L := L) file text s).filter Act.isRun = [] := by
  have hstatements (s : L.State) :
      (compilingStatements (L := L) file text s).filter Act.isRun = [] := by
    rw [compilingStatements, List.filter_cons_of_neg (by simp [Act.isRun])]
    split
    · rfl
    · split <;> rfl
  rw [compilingActs, List.filter_cons_of_neg (by simp [Act.isRun])]
  split
  · rfl
  · split
    · exact hstatements _
    · rfl

theorem runs_refusing (why : Failure L) (s : L.State) :
    (refusing why s).filter Act.isRun = [] := by
  unfold refusing
  split
  · rfl
  · split <;> rfl

theorem runs_describing (e : L.Error) (s : L.State) :
    (describing e s).filter Act.isRun = [] := by
  unfold describing
  rcases hmessage : L.message e s with ⟨_ | message, s₁⟩
  · rfl
  rcases hkind : L.kindName e s₁ with ⟨_ | kind, s₂⟩
  · simp [hkind, Act.isRun]
  rcases hholds : L.holds message s₂ with ⟨_ | _ | _, s₃⟩ <;>
    simp [hkind, hholds, Act.isRun]

theorem runs_afterwards (r : Except L.Error Text × L.State) :
    (afterwards r).filter Act.isRun = [] := by
  rcases r with ⟨e | shown, s⟩
  · rw [afterwards, List.filter_append, telling]
    split
    · rfl
    · rw [List.filter_append, runs_describing]
      split <;> rfl
  · rfl

theorem runs_running (mode : Script.Mode) (code : L.Code) (s : L.State) :
    (running mode code s).filter Act.isRun = [.run mode code] := by
  cases mode with
  | expression =>
    rcases hrun : L.evaluate code s with ⟨_ | v, s'⟩ <;>
      simp [running, hrun, Act.isRun, List.filter_cons]
  | statements => rfl

theorem runs_of_refused {c : Context L} {text : Text} {why : Failure L} {s : L.State}
    (h : compile c.file text c.state = (.error why, s)) :
    (acts c text).filter Act.isRun = [] := by
  rw [acts, h, List.filter_append, runs_compilingActs, runs_refusing]
  rfl

theorem runs_of_compiled {c : Context L} {text : Text} {u : Compiled L} {s : L.State}
    (h : compile c.file text c.state = (.ok u, s)) :
    (acts c text).filter Act.isRun = [.run u.mode u.code] := by
  rw [acts, h, List.filter_append, runs_compilingActs, List.filter_append, runs_running,
    runs_afterwards]
  rfl

section Attempts
variable {c : Context L} {text : Text}

theorem compile_of_expression {file : Text} {code : L.Code} {s s₁ : L.State}
    (h : L.compile .expression file text s = (.ok code, s₁)) :
    compile file text s = (.ok ⟨.expression, code⟩, s₁) := by
  rw [compile, h]

theorem compile_of_statements {file : Text} {e : L.Error} {s s₁ : L.State}
    (h : L.compile .expression file text s = (.error e, s₁)) (he : L.isOrdinary s₁ e = true) :
    compile file text s = compileStatements file text s₁ := by
  rw [compile, h]
  exact if_pos he

theorem compileStatements_of_ok {file : Text} {code : L.Code} {s s₁ : L.State}
    (h : L.compile .statements file text s = (.ok code, s₁)) :
    compileStatements file text s = (.ok ⟨.statements, code⟩, s₁) := by
  rw [compileStatements, h]

theorem compileStatements_of_error {file : Text} {e : L.Error} {s s₁ : L.State}
    (h : L.compile .statements file text s = (.error e, s₁)) (he : L.isOrdinary s₁ e = true) :
    compileStatements file text s = (.error (diagnose e s₁).1, (diagnose e s₁).2) := by
  rw [compileStatements, h]
  exact if_pos he

/-- Of a text that is neither, both attempts are all that is done, with the diagnostic of the second. -/
theorem acts_of_neither {e e' : L.Error} {diagnostic : L.Value} {s₁ s₂ s₃ : L.State}
    (h : L.compile .expression c.file text c.state = (.error e, s₁))
    (he : L.isOrdinary s₁ e = true) (h' : L.compile .statements c.file text s₁ = (.error e', s₂))
    (he' : L.isOrdinary s₂ e' = true) (hmessage : L.message e' s₂ = (.ok diagnostic, s₃)) :
    acts c text = [.compile .expression c.file text, .compile .statements c.file text,
      .message e', .behind compileErrorMark diagnostic] := by
  have hcompile : compile c.file text c.state = (.error (.diagnosed diagnostic), s₃) := by
    rw [compile_of_statements h he, compileStatements_of_error h' he', diagnose, hmessage]
  rw [acts, hcompile, compilingActs, h]
  simp [he, he', h', compilingStatements, refusing]

theorem acts_of_expression {code : L.Code} {s : L.State}
    (h : L.compile .expression c.file text c.state = (.ok code, s)) :
    acts c text = .compile .expression c.file text ::
      (running .expression code s ++ afterwards (run ⟨.expression, code⟩ s)) := by
  rw [acts, compile_of_expression h, compilingActs, h]
  rfl

theorem acts_of_statements {e : L.Error} {code : L.Code} {s s₁ : L.State}
    (h : L.compile .expression c.file text c.state = (.error e, s₁))
    (he : L.isOrdinary s₁ e = true) (h' : L.compile .statements c.file text s₁ = (.ok code, s)) :
    acts c text = .compile .expression c.file text :: .compile .statements c.file text ::
      (running .statements code s ++ afterwards (run ⟨.statements, code⟩ s)) := by
  rw [acts, compile_of_statements h he, compileStatements_of_ok h', compilingActs, h]
  simp [he, h', compilingStatements]

end Attempts

section WithStatements
variable (compile' : Text → Text → L.State → Except L.Error L.Code × L.State)
variable (execute' : L.Code → L.State → Except L.Error Unit × L.State)

theorem describe_withStatements (e : L.Error) (s : L.State) :
    (L.withStatements compile' execute').describe e s = L.describe e s := by
  unfold Language.describe
  rcases L.message e s with ⟨_ | message, s₁⟩
  · simp
  rcases hkind : L.kindName e s₁ with ⟨_ | kind, s₂⟩
  · simp [hkind]
  rcases hholds : L.holds message s₂ with ⟨_ | _ | _, s₃⟩ <;>
    simp [hkind, hholds]

theorem fail_withStatements (e : L.Error) (s : L.State) :
    fail (L := L.withStatements compile' execute') e s = fail (L := L) e s := by
  by_cases he : L.interrupts s e = true
  · simp [fail, he]
  · rcases hdescribe : L.describe e s with ⟨_ | described, s'⟩
    · simp [fail, he, describe_withStatements, hdescribe]
    · rcases htell : L.behind runErrorMark described s' with ⟨_ | t, s''⟩ <;>
        simp [fail, he, describe_withStatements, hdescribe, tell, htell]

theorem respond_withStatements (code : L.Code) (s : L.State) :
    respond (L := L.withStatements compile' execute') ⟨.expression, code⟩ s =
      respond (L := L) ⟨.expression, code⟩ s := by
  rcases hrun : L.evaluate code s with ⟨e | v, s'⟩
  · simp [respond, run, hrun, fail_withStatements]
  · rcases hliteral : L.literal v s' with ⟨e | shown, s''⟩ <;>
      simp [respond, run, hrun, hliteral, fail_withStatements]

/-- With other statements a text that is an expression evaluates as before. -/
theorem evaluate_withStatements {c : Context L} {text : Text} {code : L.Code} {s : L.State}
    (h : L.compile .expression c.file text c.state = (.ok code, s)) :
    evaluate (L := L.withStatements compile' execute') ⟨c.file, c.state⟩ text =
      ((evaluate c text).1, ⟨c.file, (evaluate c text).2.state⟩) := by
  have hother : compile (L := L.withStatements compile' execute') c.file text c.state =
      (.ok ⟨.expression, code⟩, s) := compile_of_expression h
  unfold evaluate
  rw [hother, compile_of_expression h]
  simp only [respond_withStatements]

end WithStatements

/-- Statements that end well are answered with the form of nothing. -/
theorem evaluate_of_executed {c : Context L} {text : Text} {code : L.Code} {s s' : L.State}
    (hcompile : compile c.file text c.state = (.ok ⟨.statements, code⟩, s))
    (hexecute : L.execute code s = (.ok (), s')) :
    evaluate c text = (.ok (.ok (.text "None")), { c with state := L.settle s' }) := by
  rw [evaluate_of_compiled hcompile]
  simp only [respond, run, hexecute]

/-- A success of statements is told as the form of nothing. -/
theorem shown_of_statements {c : Context L} {text : Text} {code : L.Code} {s : L.State}
    {shown : Datum} (hu : compile c.file text c.state = (.ok ⟨.statements, code⟩, s))
    (hshown : (evaluate c text).1 = .ok (.ok shown)) : shown = .text "None" := by
  rcases hexecute : L.execute code s with ⟨e | _, s'⟩
  · rcases answers_or_leaves c text with ⟨r, hr, hanswers⟩ | ⟨e', he', _⟩
    · have hok := Except.ok.inj (hshown.symm.trans hr)
      cases hanswers with
      | uncompiled hcompile htell => simp [Response.ok, Response.failed] at hok
      | unfit hcompile hdiagnostic htell => simp [Response.ok, Response.failed] at hok
      | failed hcompile hrun he hdescribe htell => simp [Response.ok, Response.failed] at hok
      | @finished u told s₁ s₂ hcompile hrun =>
        obtain ⟨hcompiled, rfl⟩ := Prod.mk.inj (hu.symm.trans hcompile)
        obtain rfl := Except.ok.inj hcompiled
        simp [run, hexecute] at hrun
    · rw [hshown] at he'
      contradiction
  · rw [evaluate_of_executed hu hexecute] at hshown
    simpa [Response.ok] using hshown.symm

/-- It raises an error whose message cannot be told without making a name. -/
def naming : Text :=
  "class E(Exception):\n    def __str__(self):\n        global x\n        x = 1\n"
    ++ "        return 's'\nraise E()"

end Evaluator
end LiveConsole
