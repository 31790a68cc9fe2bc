import LiveConsole.Net.Server
import LiveConsole.Proofs.Net.Listening
import LiveConsole.Proofs.Net.Serving

/-!
# What goes on record

Each operation of a listener and of a server adds calls of certain sorts to the record of its network,
and changes nothing of what is there. A tick begins with the only look for a client that it makes, and
then reads, sends and closes.
-/

namespace LiveConsole.Net
set_option autoImplicit false

variable {W H : Type} {L : Language}

/-- One record goes on where the other ends, with calls of one sort. -/
def Adds (P : Exchange H → Prop) (r r' : Recorded W H) : Prop :=
  ∃ new, r'.exchanges = r.exchanges ++ new ∧ ∀ x ∈ new, P x

namespace Adds

variable {P : Exchange H → Prop} {r r₁ r₂ : Recorded W H}

theorem of_eq (h : r₁.exchanges = r.exchanges) : Adds P r r₁ :=
  ⟨[], by rw [h, List.append_nil], by simp⟩

theorem refl (r : Recorded W H) : Adds P r r := of_eq rfl

theorem one {x : Exchange H} (h : r₁.exchanges = r.exchanges ++ [x]) (hx : P x) : Adds P r r₁ :=
  ⟨[x], h, by simpa using hx⟩

theorem trans (h : Adds P r r₁) (h' : Adds P r₁ r₂) : Adds P r r₂ := by
  obtain ⟨xs, hxs, hP⟩ := h
  obtain ⟨ys, hys, hP'⟩ := h'
  refine ⟨xs ++ ys, by rw [hys, hxs, List.append_assoc], ?_⟩
  intro x hx
  rcases List.mem_append.mp hx with hx | hx
  · exact hP x hx
  · exact hP' x hx

theorem mem (h : Adds P r r₁) {x : Exchange H} (hx : x ∈ r.exchanges) : x ∈ r₁.exchanges := by
  obtain ⟨xs, hxs, _⟩ := h
  rw [hxs]
  exact List.mem_append_left xs hx

end Adds

section Calls
variable {P : Exchange H → Prop}

theorem exchanges_of_keep {α : Type} {call : W → α × W} {exchange : α → Exchange H}
    {r r' : Recorded W H} {a : α} (hcall : Recorded.keep call exchange r = (a, r')) :
    r'.exchanges = r.exchanges ++ [exchange a] := by
  obtain ⟨rfl, rfl⟩ := Prod.mk.inj hcall
  rfl

theorem adds_of_keep {α : Type} {call : W → α × W} {exchange : α → Exchange H} {r r' : Recorded W H}
    {a : α} (hx : P (exchange a)) (hcall : Recorded.keep call exchange r = (a, r')) :
    Adds P r r' :=
  .one (exchanges_of_keep hcall) hx

theorem adds_of_pass {α : Type} {call : W → α × W} {r r' : Recorded W H} {a : α}
    (hcall : Recorded.pass call r = (a, r')) : Adds P r r' := by
  obtain ⟨rfl, rfl⟩ := Prod.mk.inj hcall
  exact .of_eq rfl

variable [Sockets W H]

theorem adds_note (n : Notice) (r : Recorded W H) : Adds P r (Sockets.note n r) := .of_eq rfl

namespace Listener

variable (l : Listener H) (r : Recorded W H)

theorem adds_prepare (htimed : ∀ h a, P (.timed h a)) (settings : Settings) (h : H)
    (r : Recorded W H) : Adds P r (prepare settings h r).2 := by
  unfold prepare
  rcases hreuse : Sockets.reuseAddress h r with ⟨f | u, r₁⟩
  · exact adds_of_pass hreuse
  have h₁ : Adds P r r₁ := adds_of_pass hreuse
  rcases hbind : Sockets.bind h settings.host settings.port.val r₁ with ⟨f | u, r₂⟩
  · simp only [hbind]
    exact h₁.trans (adds_of_pass hbind)
  have h₂ : Adds P r r₂ := h₁.trans (adds_of_pass hbind)
  rcases hlisten : Sockets.listen h settings.backlog r₂ with ⟨f | u, r₃⟩
  · simp only [hbind, hlisten]
    exact h₂.trans (adds_of_pass hlisten)
  have h₃ : Adds P r r₃ := h₂.trans (adds_of_pass hlisten)
  rcases htime : Sockets.setTimeout h (timeout settings) r₃ with ⟨a, r₄⟩
  simp only [hbind, hlisten, htime]
  exact h₃.trans (adds_of_keep (htimed h a) htime)

section Closing
variable (hclosed : ∀ h a, P (.closed h a))
include hclosed

theorem adds_dropClient : Adds P r (dropClient l r).2.2 := by
  cases hc : l.client with
  | none => simpa [dropClient, hc] using Adds.refl r
  | some h =>
    rcases hclose : Sockets.close h r with ⟨f | u, r'⟩
    · have hadds : Adds P r r' := adds_of_keep (hclosed h _) hclose
      cases hf : f.isA .systemError <;> simpa [dropClient, hc, hclose, hf] using hadds
    · have hadds : Adds P r r' := adds_of_keep (hclosed h _) hclose
      simpa [dropClient, hc, hclose] using hadds

theorem adds_takeChunk (chunk : List UInt8) : Adds P r (takeChunk l chunk r).2.2 := by
  unfold takeChunk
  rcases popLine { l with buffer := l.buffer ++ chunk } with ⟨_ | line, l'⟩
  · dsimp only
    split
    · exact adds_dropClient l' (Sockets.note _ r) hclosed
    · exact .refl r
  · exact .refl r

theorem adds_receiveLine (hreceived : ∀ h size a, P (.received h size a)) :
    Adds P r (receiveLine l r).2.2 := by
  unfold receiveLine
  cases l.client with
  | none => exact .refl r
  | some h =>
    rcases popLine l with ⟨_ | line, l'⟩
    · rcases hr : Sockets.receive h l'.settings.recvSize r with ⟨f | _ | ⟨b, bs⟩, r'⟩
      · have hadds : Adds P r r' := adds_of_keep (hreceived h _ _) hr
        cases hf : f.isA .connectionError with
        | true =>
          simp only [receiveChunk, hr, hf]
          exact hadds.trans (adds_dropClient l' (Sockets.note _ r') hclosed)
        | false =>
          cases hs : f.isA .systemError <;> simpa [receiveChunk, hr, hf, hs] using hadds
      · have hadds : Adds P r r' := adds_of_keep (hreceived h _ _) hr
        simp only [receiveChunk, hr]
        exact hadds.trans (adds_dropClient l' (Sockets.note _ r') hclosed)
      · have hadds : Adds P r r' := adds_of_keep (hreceived h _ _) hr
        simp only [receiveChunk, hr]
        exact hadds.trans (adds_takeChunk l' r' hclosed _)
    · exact .refl r

/-- A look for a client is made only if there is none, and first. -/
theorem acceptIfNone_cases (htimed : ∀ h a, P (.timed h a)) :
    acceptIfNone l r = (.ok false, l, r) ∨
      ∃ server a r', l.server = some server ∧ l.client = none ∧
        r'.exchanges = r.exchanges ++ [.accepted server a] ∧
        Adds P r' (acceptIfNone l r).2.2 := by
  cases hc : l.client with
  | some h => exact .inl (acceptIfNone_of_client hc r)
  | none =>
    cases hs : l.server with
    | none => exact .inl (by simp [acceptIfNone, hs])
    | some server =>
      refine .inr ⟨server, ?_⟩
      rcases hr : Sockets.accept server r with ⟨f | ⟨h, e⟩, r'⟩
      · refine ⟨.error f, r', rfl, rfl, exchanges_of_keep hr, ?_⟩
        rw [acceptIfNone_of_nobody hs hc hr]
        exact .refl r'
      · refine ⟨.ok (h, e), r', rfl, rfl, exchanges_of_keep hr, ?_⟩
        rcases ht : Sockets.setTimeout h (timeout l.settings) r' with ⟨f | u, r''⟩
        · have hadds : Adds P r' r'' := adds_of_keep (htimed h _) ht
          cases hf : f.isA .systemError with
          | false =>
            rw [acceptIfNone_of_untimed hs hc hr ht hf]
            exact hadds
          | true =>
            rcases hclose : Sockets.close h (Sockets.note (.clientUnusable e f) r'') with ⟨a, r₁⟩
            have hlast : Adds P (Sockets.note (.clientUnusable e f) r'') r₁ :=
              adds_of_keep (hclosed h _) hclose
            rw [acceptIfNone_of_unusable hs hc hr ht hf hclose]
            exact hadds.trans ((adds_note _ r'').trans hlast)
        · have hadds : Adds P r' r'' := adds_of_keep (htimed h _) ht
          rw [acceptIfNone_of_caller hs hc hr ht]
          exact hadds.trans (adds_note _ r'')

theorem adds_close : Adds P r (close l r).2.2 := by
  have hdrop := adds_dropClient l r hclosed
  rcases hd : dropClient l r with ⟨f | u, l', r'⟩
  · rw [hd] at hdrop
    simpa [close, hd] using hdrop
  · rw [hd] at hdrop
    cases hs : l'.server with
    | none => simpa [close, hd, hs] using hdrop
    | some h =>
      rcases hclose : Sockets.close h r' with ⟨f | u, r''⟩
      · have hadds : Adds P r' r'' := adds_of_keep (hclosed h _) hclose
        simpa [close, hd, hs, hclose] using Adds.trans hdrop hadds
      · have hadds : Adds P r' r'' := adds_of_keep (hclosed h _) hclose
        simpa [close, hd, hs, hclose] using Adds.trans hdrop hadds

theorem adds_bind (htimed : ∀ h a, P (.timed h a)) : Adds P r (bind l r).2.2 := by
  cases hb : l.isBound with
  | true => simpa [bind, hb] using Adds.refl r
  | false =>
    rcases hcreate : Sockets.create r with ⟨f | h, r'⟩
    · have hadds : Adds P r r' := adds_of_pass hcreate
      simpa [bind, hb, hcreate] using hadds
    · have hadds : Adds P r r' := adds_of_pass hcreate
      have hprepare := adds_prepare htimed l.settings h r'
      rcases hp : prepare l.settings h r' with ⟨f | u, r''⟩
      · rw [hp] at hprepare
        cases hf : f.isA .systemError with
        | false => simpa [bind, hb, hcreate, hp, hf] using hadds.trans hprepare
        | true =>
          rcases hclose : Sockets.close h r'' with ⟨e | u, r₁⟩
          · have hlast : Adds P r'' r₁ := adds_of_keep (hclosed h _) hclose
            simpa [bind, hb, hcreate, hp, hf, hclose] using (hadds.trans hprepare).trans hlast
          · have hlast : Adds P r'' r₁ := adds_of_keep (hclosed h _) hclose
            simpa [bind, hb, hcreate, hp, hf, hclose] using (hadds.trans hprepare).trans hlast
      · rw [hp] at hprepare
        simpa [bind, hb, hcreate, hp] using hadds.trans hprepare

end Closing

theorem adds_send {data : List UInt8} (hsent : ∀ h a, P (.sent h data a)) :
    Adds P r (l.send data r).2 := by
  cases hc : l.client with
  | none => simpa [send, hc] using Adds.refl r
  | some h =>
    rcases hsend : Sockets.sendAll h data r with ⟨f | u, r'⟩
    · have hadds : Adds P r r' := adds_of_keep (hsent h _) hsend
      cases hf : f.isA .systemError with
      | true => simpa [send, hc, hsend, hf] using hadds.trans (adds_note _ r')
      | false => simpa [send, hc, hsend, hf] using hadds
    · have hadds : Adds P r r' := adds_of_keep (hsent h _) hsend
      simpa [send, hc, hsend] using hadds

end Listener

/-- The calls of a tick that do not look for a client. All that is sent are responses. -/
structure Attends (P : Exchange H → Prop) : Prop where
  timed : ∀ h a, P (.timed h a)
  received : ∀ h size a, P (.received h size a)
  sent : ∀ (x : Response) (data : List UInt8), x.encode = .ok data → ∀ h a, P (.sent h data a)
  closed : ∀ h a, P (.closed h a)

namespace Server

theorem adds_announce (l : Listener H) (r : Recorded W H) : Adds P r (announce l r).2 := by
  unfold announce Listener.endpoint?
  cases l.server with
  | none => exact .refl r
  | some h =>
    rcases hname : Sockets.endpoint h r with ⟨f | e, r'⟩
    · have hasked : Adds P r r' := adds_of_pass hname
      simpa [hname, Except.map] using hasked
    · have hasked : Adds P r r' := adds_of_pass hname
      simpa [hname, Except.map] using hasked.trans (adds_note (.serverStarted e) r')

variable (s : Server H) (c : Context L) (r : Recorded W H) (hP : Attends P)
include hP

theorem adds_start : Adds P r (s.start r).2.2 := by
  cases hrun : s.running with
  | true =>
    rw [start_of_running hrun]
    exact .refl r
  | false =>
    have hbind := Listener.adds_bind s.listener r hP.closed hP.timed
    rcases hb : Listener.bind s.listener r with ⟨f | u, l, r'⟩
    · rw [hb] at hbind
      cases hf : f.isA .bindError with
      | false => simpa [start, hrun, hb, hf] using hbind
      | true => simpa [start, hrun, hb, hf] using hbind.trans (adds_note _ r')
    · rw [hb] at hbind
      simp only [start, hrun, hb, if_false, Bool.false_eq_true]
      exact hbind.trans (adds_announce l r')

theorem adds_stop : Adds P r (s.stop r).2.2 := by
  have hclose (r : Recorded W H) := Listener.adds_close s.listener r hP.closed
  have hfirst : Adds P r (if s.running then Sockets.note .serverStopping r else r) := by
    split
    · exact adds_note _ r
    · exact .refl r
  unfold stop
  generalize (if s.running then Sockets.note .serverStopping r else r) = r₁ at hfirst ⊢
  specialize hclose r₁
  generalize Listener.close s.listener r₁ = out at hclose ⊢
  rcases out with ⟨f | u, l, r'⟩
  · exact hfirst.trans hclose
  · exact hfirst.trans hclose

theorem adds_send (x : Response) : Adds P r (s.send x r).2 := by
  unfold send
  cases hx : x.encode with
  | error reason => exact .refl r
  | ok data => exact Listener.adds_send s.listener r (hP.sent x data hx)

theorem adds_answer (line : Text) : Adds P r (s.answer c line r).2.2 := by
  unfold answer
  rcases Evaluator.handleLine c line with ⟨e | _ | x, c'⟩
  · exact .refl r
  · exact .refl r
  · have hsend := adds_send s r hP x
    dsimp only
    generalize s.send x r = out at hsend ⊢
    rcases out with ⟨f | u, r'⟩
    · exact hsend
    · exact hsend

theorem adds_received : Adds P (s.listener.receiveLine r).2.2 (s.serve c r).2.2.2 := by
  unfold serve
  rcases Listener.receiveLine s.listener r with ⟨f | _ | line, l, r'⟩
  · exact .refl r'
  · exact .refl r'
  · exact adds_answer { s with listener := l } c r' hP line

theorem adds_serve : Adds P r (s.serve c r).2.2.2 :=
  (Listener.adds_receiveLine s.listener r hP.closed hP.received).trans (adds_received s c r hP)

/-- A greeting comes only after a look for a client. -/
theorem welcome_cases : s.welcome r = (.ok (), s, r) ∨
    ∃ server a r', s.listener.server = some server ∧ s.listener.client = none ∧
      r'.exchanges = r.exchanges ++ [.accepted server a] ∧ Adds P r' (s.welcome r).2.2 := by
  rcases Listener.acceptIfNone_cases s.listener r hP.closed hP.timed with
    haccept | ⟨server, a, r', hs, hc, hr', hadds⟩
  · left
    rw [welcome, haccept]
  · refine .inr ⟨server, a, r', hs, hc, hr', ?_⟩
    unfold welcome
    generalize Listener.acceptIfNone s.listener r = out at hadds ⊢
    rcases out with ⟨f | _ | _, l, r''⟩
    · exact hadds
    · exact hadds
    · have hsend := adds_send { s with listener := l } r'' hP (.connected l.settings.banner)
      dsimp only
      generalize send { s with listener := l } (.connected l.settings.banner) r'' = out at hsend ⊢
      rcases out with ⟨f | u, r₁⟩
      · exact hadds.trans hsend
      · exact hadds.trans hsend

/-- A tick looks for a client only if there is none, and before it does anything else. -/
theorem tick_cases : Adds P r (s.tick c r).2.2.2 ∨
    ∃ server a r', s.running = true ∧ s.listener.server = some server ∧
      s.listener.client = none ∧ r'.exchanges = r.exchanges ++ [.accepted server a] ∧
      Adds P r' (s.tick c r).2.2.2 := by
  cases hrun : s.running with
  | false =>
    rw [tick_of_not_running hrun]
    exact .inl (.refl r)
  | true =>
    rw [tick, if_pos hrun]
    rcases welcome_cases s r hP with hwelcome | ⟨server, a, r', hs, hc, hr', hadds⟩
    · rw [hwelcome]
      exact .inl (adds_serve s c r hP)
    · refine .inr ⟨server, a, r', rfl, hs, hc, hr', ?_⟩
      generalize s.welcome r = out at hadds ⊢
      rcases out with ⟨f | u, s', r''⟩
      · exact hadds
      · exact hadds.trans (adds_serve s' c r'' hP)

theorem adds_tick (haccepted : ∀ h a, P (.accepted h a)) : Adds P r (s.tick c r).2.2.2 := by
  rcases tick_cases s c r hP with hadds | ⟨server, a, r', _, _, _, hr', hadds⟩
  · exact hadds
  · exact (Adds.one hr' (haccepted server a)).trans hadds

theorem adds_ticks (haccepted : ∀ h a, P (.accepted h a)) (n : Nat) :
    Adds P r (s.ticks n c r).2.2 := by
  induction n generalizing s c r with
  | zero => exact .refl r
  | succ n ih => exact (adds_tick s c r hP haccepted).trans (ih _ _ _)

end Server
end Calls

end LiveConsole.Net
