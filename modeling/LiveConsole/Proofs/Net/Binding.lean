import LiveConsole.Net.Listener
import LiveConsole.Proofs.Net.Orderly

/-!
# Ways to bind

One statement for each way in which a listener that is not bound can try to be, in any network. A fault
of the socket system is told as a bind error, unless the host or the fault has no text.
-/

namespace LiveConsole.Net
set_option autoImplicit false

variable {W H : Type} [Sockets W H]

/-- The ways to bind. -/
inductive Binds (l : Listener H) (w : W) : Except Fault Unit × Listener H × W → Prop where
  | uncreated {f : Fault} {w' : W} (hcreate : Sockets.create w = (.error f, w')) :
      Binds l w (.error (if f.isA .systemError then Listener.bindError "Cannot create socket" f
        else f), l, w')
  | prepared {h : H} {w' w'' : W} (hcreate : Sockets.create w = (.ok h, w'))
      (hprepare : Listener.prepare l.settings h w' = (.ok (), w'')) :
      Binds l w (.ok (), { l with server := some h }, w'')
  | rejected {h : H} {f : Fault} {w' w'' : W} (hcreate : Sockets.create w = (.ok h, w'))
      (hprepare : Listener.prepare l.settings h w' = (.error f, w''))
      (hf : f.isA .systemError = false) : Binds l w (.error f, l, w'')
  | withdrawn {h : H} {f : Fault} {w' w'' w₁ : W} (hcreate : Sockets.create w = (.ok h, w'))
      (hprepare : Listener.prepare l.settings h w' = (.error f, w''))
      (hf : f.isA .systemError = true) (hclose : Sockets.close h w'' = (.ok (), w₁)) :
      Binds l w (.error (Listener.failedToBind l.settings f), l, w₁)
  | stuck {h : H} {f e : Fault} {w' w'' w₁ : W} (hcreate : Sockets.create w = (.ok h, w'))
      (hprepare : Listener.prepare l.settings h w' = (.error f, w''))
      (hf : f.isA .systemError = true) (hclose : Sockets.close h w'' = (.error e, w₁)) :
      Binds l w (.error e, l, w₁)

/-- A fault keeps a new socket from listening, and an error is to tell that. -/
inductive Bars (l : Listener H) (w : W) (f : Fault) : Fault → Prop where
  | uncreated {w' : W} (hcreate : Sockets.create w = (.error f, w')) :
      Bars l w f (Listener.bindError "Cannot create socket" f)
  | unprepared {h : H} {w' w'' : W} (hcreate : Sockets.create w = (.ok h, w'))
      (hprepare : Listener.prepare l.settings h w' = (.error f, w'')) :
      Bars l w f (Listener.failedToBind l.settings f)

namespace Listener

theorem bind_of_server {l : Listener H} {h : H} (hs : l.server = some h) (w : W) :
    bind l w = (.ok (), l, w) := by
  simp [bind, isBound, hs]

theorem binding {l : Listener H} (hs : l.server = none) (w : W) : Binds l w (bind l w) := by
  unfold bind
  rw [if_neg (by simp [isBound, hs])]
  rcases hcreate : Sockets.create w with ⟨f | h, w'⟩
  · exact .uncreated hcreate
  dsimp only
  rcases hprepare : prepare l.settings h w' with ⟨f | u, w''⟩
  · by_cases hf : f.isA .systemError = true
    · simp only [if_pos hf]
      rcases hclose : Sockets.close h w'' with ⟨e | u, w₁⟩
      · exact .stuck hcreate hprepare hf hclose
      · exact .withdrawn hcreate hprepare hf hclose
    · simp only [if_neg hf]
      exact .rejected hcreate hprepare (eq_false_of_ne_true hf)
  · exact .prepared hcreate hprepare

/-- A bind error has a text, or what it should tell has none. -/
theorem bindError_cases (message : Text) (why : Fault) :
    (bindError message why).isA .bindError = true ∨
      ∃ reason, why.message = .error reason ∧ bindError message why = .unwritable reason := by
  unfold bindError
  rcases why.message with reason | t
  · exact .inr ⟨reason, rfl, rfl⟩
  · exact .inl rfl

theorem uncreated_cases (s : Settings) (why : Fault) :
    (bindError "Cannot create socket" why).isA .bindError = true ∨
      ∃ reason, (s.host.plain = .error reason ∨ why.message = .error reason) ∧
        bindError "Cannot create socket" why = .unwritable reason := by
  rcases bindError_cases "Cannot create socket" why with htold | ⟨reason, hreason, huntold⟩
  · exact .inl htold
  · exact .inr ⟨reason, .inr hreason, huntold⟩

theorem failedToBind_cases (s : Settings) (why : Fault) :
    (failedToBind s why).isA .bindError = true ∨
      ∃ reason, (s.host.plain = .error reason ∨ why.message = .error reason) ∧
        failedToBind s why = .unwritable reason := by
  unfold failedToBind
  rcases s.host.plain with reason | host
  · exact .inr ⟨reason, .inl rfl, rfl⟩
  · rcases bindError_cases ("Failed to bind to " ++ Endpoint.text ⟨host, s.port.val⟩) why with
      htold | ⟨reason, hreason, huntold⟩
    · exact .inl htold
    · exact .inr ⟨reason, .inr hreason, huntold⟩

end Listener

/-- A bind error tells what keeps a socket from listening, if that can be told. -/
theorem Bars.told_cases {l : Listener H} {w : W} {f e : Fault} (h : Bars l w f e) :
    e.isA .bindError = true ∨
      ∃ reason, (l.settings.host.plain = .error reason ∨ f.message = .error reason) ∧
        e = .unwritable reason := by
  cases h with
  | uncreated => exact Listener.uncreated_cases l.settings f
  | unprepared => exact Listener.failedToBind_cases l.settings f

/-- Where calls fail only with certain faults, no other fault keeps a socket from listening. -/
theorem Starts.prepare {P : Fault → Prop} (hW : Starts W P) {s : Settings} {h : H} {w w' : W}
    {f : Fault} (hprepare : Listener.prepare s h w = (.error f, w')) : P f := by
  unfold Listener.prepare at hprepare
  rcases hreuse : Sockets.reuseAddress h w with ⟨e | u, w₁⟩
  · obtain ⟨rfl, _⟩ : e = f ∧ w₁ = w' := by simpa [hreuse] using hprepare
    exact hW.reuseAddress hreuse
  rcases hbind : Sockets.bind h s.host s.port.val w₁ with ⟨e | u, w₂⟩
  · obtain ⟨rfl, _⟩ : e = f ∧ w₂ = w' := by simpa [hreuse, hbind] using hprepare
    exact hW.bind hbind
  rcases hlisten : Sockets.listen h s.backlog w₂ with ⟨e | u, w₃⟩
  · obtain ⟨rfl, _⟩ : e = f ∧ w₃ = w' := by simpa [hreuse, hbind, hlisten] using hprepare
    exact hW.listen hlisten
  · have htime : Sockets.setTimeout h (Listener.timeout s) w₃ = (.error f, w') := by
      simpa [hreuse, hbind, hlisten] using hprepare
    exact hW.setTimeout htime

end LiveConsole.Net
