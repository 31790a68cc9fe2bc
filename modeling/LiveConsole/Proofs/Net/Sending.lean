import LiveConsole.Proofs.Net.Additions

/-!
# What a tick sends

A tick greets a client that it takes and answers the line that it serves, and it sends nothing else. To the
rest of the tick it makes no difference whether a call that sends fails, as long as the fault is one of
the socket system: the client is kept, it is read from after a greeting, and a response ends the tick
as any other does.
-/

namespace LiveConsole.Net
set_option autoImplicit false

variable {W H : Type} {L : Language}

/-- What there is to send of a response: nothing without a client or without an encoding. -/
def Listener.handing (l : Listener H) (x : Response) : List (H × List UInt8) :=
  match l.client, x.encode with
  | some h, .ok data => [(h, data)]
  | _, _ => []

namespace Server

/-- A part of a tick makes calls that send nothing, and then sends what it has to. -/
structure Sends (due : List (H × List UInt8)) (r r' : Recorded W H)
    (before sent : List (Exchange H)) : Prop where
  exchanges_eq : r'.exchanges = r.exchanges ++ (before ++ sent)
  silent : ∀ x ∈ before, x.sent? = none
  sends_eq : sends sent = due

namespace Sends

variable {due : List (H × List UInt8)} {r r₁ r' : Recorded W H} {before sent : List (Exchange H)}

theorem of_adds (h : Adds (fun x => x.sent? = none) r r') :
    ∃ before, Sends [] r r' before [] := by
  obtain ⟨before, heq, hsilent⟩ := h
  exact ⟨before, by rw [heq, List.append_nil], hsilent, rfl⟩

theorem after (h : Sends due r₁ r' before sent) (hadds : Adds (fun x => x.sent? = none) r r₁) :
    ∃ before, Sends due r r' before sent := by
  obtain ⟨first, heq, hsilent⟩ := hadds
  refine ⟨first ++ before, by rw [h.exchanges_eq, heq]; simp only [List.append_assoc], ?_,
    h.sends_eq⟩
  intro x hx
  rcases List.mem_append.mp hx with hx | hx
  · exact hsilent x hx
  · exact h.silent x hx

end Sends

variable [Sockets W H]

/-- The greeting of a client that a tick takes. -/
def welcoming (s : Server H) (w : W) : List (H × List UInt8) :=
  match s.listener.acceptIfNone w with
  | (.ok true, l, _) => l.handing (.connected l.settings.banner)
  | _ => []

/-- The response to the line that is served. -/
def reply (s : Server H) (c : Context L) (w : W) : List (H × List UInt8) :=
  match s.listener.receiveLine w with
  | (.ok (some line), l, _) =>
    match (Evaluator.handleLine c line).1 with
    | .ok (some x) => l.handing x
    | _ => []
  | _ => []

/-- What a tick has to send. -/
def dueNow (s : Server H) (c : Context L) (w : W) : List (H × List UInt8) :=
  if s.running then
    s.welcoming w ++
      match s.welcome w with
      | (.ok (), s, w) => s.reply c w
      | (.error _, _, _) => []
  else []

/-- What ticks one after the other have to send. -/
def dueOver : Nat → Server H → Context L → W → List (H × List UInt8)
  | 0, _, _, _ => []
  | n + 1, s, c, w =>
    s.dueNow c w ++
      match s.tick c w with
      | (_, s, c, w) => dueOver n s c w

variable (s : Server H) (c : Context L) (r : Recorded W H)

/-- A response goes to the client, and only a fault that is none of the socket system is passed on. -/
theorem send_sends (x : Response) : ∃ sent, Sends (s.listener.handing x) r (s.send x r).2 [] sent ∧
    ∀ h data a, .sent h data a ∈ sent → s.listener.client = some h ∧
      (Systemic a → ∃ b, (s.send x r).1 = .ok b) := by
  cases hdata : x.encode with
  | error reason =>
    refine ⟨[], ⟨?_, by simp, ?_⟩, by simp⟩
    · simp [send, hdata]
    · cases hc : s.listener.client <;> simp [Listener.handing, hdata, hc, sends]
  | ok data =>
    cases hc : s.listener.client with
    | none =>
      refine ⟨[], ⟨?_, by simp, ?_⟩, by simp⟩
      · simp [send, hdata, Listener.send, hc]
      · simp [Listener.handing, hc, sends]
    | some h =>
      rcases hsend : Sockets.sendAll h data r.world with ⟨a, w'⟩
      have hrec := Recorded.sendAll_of_eq hsend
      refine ⟨[.sent h data a], ⟨?_, by simp, ?_⟩, ?_⟩
      · rcases a with f | u
        · cases hf : f.isA .systemError <;> simp [send, hdata, Listener.send, hc, hrec, hf]
        · simp [send, hdata, Listener.send, hc, hrec]
      · simp [Listener.handing, hc, hdata, sends, Exchange.sent?]
      · intro k data' a' hmem
        obtain ⟨rfl, rfl, rfl⟩ := Exchange.sent.inj (List.mem_singleton.mp hmem)
        refine ⟨rfl, fun hsystemic => ?_⟩
        rcases a' with f | u
        · exact ⟨false, by simp [send, hdata, Listener.send, hc, hrec, hsystemic f rfl]⟩
        · exact ⟨true, by simp [send, hdata, Listener.send, hc, hrec]⟩

theorem silent_receiveLine (l : Listener H) :
    Adds (fun x => x.sent? = none) r (l.receiveLine r).2.2 :=
  l.adds_receiveLine r (fun _ _ => rfl) fun _ _ _ => rfl

theorem silent_acceptIfNone (l : Listener H) :
    Adds (fun x => x.sent? = none) r (l.acceptIfNone r).2.2 := by
  have hcases := l.acceptIfNone_cases r (P := fun x => x.sent? = none) (fun _ _ => rfl)
    fun _ _ => rfl
  rcases hcases with haccept | ⟨server, a, r', -, -, hr', hadds⟩
  · rw [haccept]
    exact .refl r
  · have hfirst : Adds (fun x => x.sent? = none) r r' := .one hr' rfl
    exact hfirst.trans hadds

theorem buffer_of_accepted {l l' : Listener H} {w w' : W}
    (h : l.acceptIfNone w = (.ok true, l', w')) : l'.buffer = [] := by
  cases hc : l.client with
  | some k =>
    rw [Listener.acceptIfNone_of_client hc] at h
    simp at h
  | none =>
    cases hs : l.server with
    | none => simp [Listener.acceptIfNone, hs] at h
    | some server =>
      have hlooking := Listener.looking hs hc w
      rw [h] at hlooking
      generalize hout : (Except.ok true, l', w') = out at hlooking
      cases hlooking with
      | @nobody f => cases hf : f.isA .systemError <;> simp [hf] at hout
      | caller =>
        obtain ⟨rfl, -⟩ := Prod.mk.inj (Prod.mk.inj hout).2
        rfl
      | untimed => simp at hout
      | @unusable _ _ _ a => cases a <;> simp [Except.map] at hout

/-- After a greeting the client is held, and nothing has been received from it. -/
theorem welcome_sends : ∃ before sent, Sends (s.welcoming r) r (s.welcome r).2.2 before sent ∧
    ∀ h data a, .sent h data a ∈ sent → (s.welcome r).2.1.listener.client = some h ∧
      newline ∉ (s.welcome r).2.1.listener.buffer ∧ (Systemic a → (s.welcome r).1 = .ok ()) := by
  have hsilent := silent_acceptIfNone r s.listener
  unfold welcome welcoming
  rcases haccept : s.listener.acceptIfNone r with ⟨f | _ | _, l, r'⟩ <;> rw [haccept] at hsilent
  · obtain ⟨before, hsends⟩ := Sends.of_adds hsilent
    exact ⟨before, [], hsends, by simp⟩
  · obtain ⟨before, hsends⟩ := Sends.of_adds hsilent
    exact ⟨before, [], hsends, by simp⟩
  · obtain ⟨sent, hsends, hheld⟩ :=
      send_sends { s with listener := l } r' (.connected l.settings.banner)
    obtain ⟨before, hsends⟩ := hsends.after hsilent
    have hbuffer : newline ∉ l.buffer := by
      rw [buffer_of_accepted haccept]
      exact List.not_mem_nil
    dsimp only at hsends hheld ⊢
    generalize send { s with listener := l } (.connected l.settings.banner) r' = out
      at hsends hheld ⊢
    refine ⟨before, sent, ?_, ?_⟩
    · rcases out with ⟨f | b, r''⟩ <;> exact hsends
    · intro h data a hmem
      obtain ⟨hclient, hsystemic⟩ := hheld h data a hmem
      rcases out with ⟨f | b, r''⟩
      · refine ⟨hclient, hbuffer, fun ha => ?_⟩
        obtain ⟨b, hb⟩ := hsystemic ha
        contradiction
      · exact ⟨hclient, hbuffer, fun _ => rfl⟩

/-- After a response the client is held as before. -/
theorem serve_sends : ∃ before sent, Sends (s.reply c r) r (s.serve c r).2.2.2 before sent ∧
    ∀ h data a, .sent h data a ∈ sent → (s.serve c r).2.1.listener.client = some h ∧
      (Systemic a → (s.serve c r).1 = .ok ()) := by
  have hsilent := silent_receiveLine r s.listener
  unfold serve reply
  rcases hreceive : s.listener.receiveLine r with ⟨f | _ | line, l, r'⟩ <;> rw [hreceive] at hsilent
  · obtain ⟨before, hsends⟩ := Sends.of_adds hsilent
    exact ⟨before, [], hsends, by simp⟩
  · obtain ⟨before, hsends⟩ := Sends.of_adds hsilent
    exact ⟨before, [], hsends, by simp⟩
  · dsimp only [answer]
    rcases Evaluator.handleLine c line with ⟨e | _ | x, c'⟩
    · obtain ⟨before, hsends⟩ := Sends.of_adds hsilent
      exact ⟨before, [], hsends, by simp⟩
    · obtain ⟨before, hsends⟩ := Sends.of_adds hsilent
      exact ⟨before, [], hsends, by simp⟩
    · obtain ⟨sent, hsends, hheld⟩ := send_sends { s with listener := l } r' x
      obtain ⟨before, hsends⟩ := hsends.after hsilent
      dsimp only at hsends hheld ⊢
      generalize send { s with listener := l } x r' = out at hsends hheld ⊢
      refine ⟨before, sent, ?_, ?_⟩
      · rcases out with ⟨f | b, r''⟩ <;> exact hsends
      · intro h data a hmem
        obtain ⟨hclient, hsystemic⟩ := hheld h data a hmem
        rcases out with ⟨f | b, r''⟩
        · refine ⟨hclient, fun ha => ?_⟩
          obtain ⟨b, hb⟩ := hsystemic ha
          contradiction
        · exact ⟨hclient, fun _ => rfl⟩

theorem receiveLine_receives {l : Listener H} {h : H} (hc : l.client = some h)
    (hb : newline ∉ l.buffer) : ∃ a r', r'.exchanges =
        r.exchanges ++ [.received h l.settings.recvSize a] ∧
      Adds (fun _ => True) r' (l.receiveLine r).2.2 := by
  rcases hr : Sockets.receive h l.settings.recvSize r with ⟨a, r'⟩
  refine ⟨a, r', exchanges_of_keep hr, ?_⟩
  have hclosed : ∀ (h : H) (a : Except Fault Unit), True := fun _ _ => trivial
  by_cases hend : Ends a
  · rw [Listener.receiveLine_of_ends hc hb hr hend]
    exact l.adds_dropClient (Sockets.note _ r') hclosed
  · rcases a with f | chunk
    · have hf : f.isA .connectionError = false :=
        Bool.eq_false_iff.mpr fun hf => hend (.inr ⟨f, rfl, hf⟩)
      rw [Listener.receiveLine_of_fault hc hb hr hf]
      exact .refl r'
    · have hchunk : chunk ≠ [] := fun hnil => hend (.inl (congrArg Except.ok hnil))
      rw [Listener.receiveLine_of_chunk hc hb hr hchunk]
      exact l.adds_takeChunk r' hclosed chunk

/-- A client of which no line is complete is read from first. -/
theorem serve_receives {h : H} (hc : s.listener.client = some h)
    (hb : newline ∉ s.listener.buffer) : ∃ size a more,
      (s.serve c r).2.2.2.exchanges = r.exchanges ++ .received h size a :: more := by
  obtain ⟨a, r', hr', hfirst⟩ := receiveLine_receives r hc hb
  have hrest := adds_received s c r (P := fun _ => True)
    ⟨fun _ _ => trivial, fun _ _ _ => trivial, fun _ _ _ _ _ => trivial, fun _ _ => trivial⟩
  obtain ⟨more, hmore, -⟩ := hfirst.trans hrest
  refine ⟨s.listener.settings.recvSize, a, more, ?_⟩
  rw [hmore, hr', List.append_assoc]
  rfl

/-- The calls of a tick: it looks for a client, greets the one that it takes, reads, and answers. -/
structure Tick (s : Server H) (c : Context L) (r : Recorded W H)
    (looked greeted read replied : List (Exchange H)) : Prop where
  exchanges_eq : (s.tick c r).2.2.2.exchanges =
    r.exchanges ++ (looked ++ greeted ++ (read ++ replied))
  silent : ∀ x ∈ looked ++ read, x.sent? = none
  sends_eq : sends (greeted ++ replied) = s.dueNow c r
  /-- After a greeting, also one that failed, the client is read from. -/
  goes_on : ∀ h data a, .sent h data a ∈ greeted → Systemic a →
    ∃ size b more, read ++ replied = .received h size b :: more
  /-- After a response, also one that failed, the client is held, and the tick has succeeded. -/
  kept : ∀ h data a, .sent h data a ∈ replied → Systemic a →
    (s.tick c r).1 = .ok () ∧ (s.tick c r).2.1.listener.client = some h

theorem exists_tick : ∃ looked greeted read replied, Tick s c r looked greeted read replied := by
  cases hrun : s.running with
  | false =>
    refine ⟨[], [], [], [], ⟨?_, by simp, ?_, by simp, by simp⟩⟩
    · rw [tick_of_not_running hrun, List.append_nil, List.append_nil, List.append_nil]
    · simp [dueNow, hrun, sends]
  | true =>
    obtain ⟨looked, greeted, hgreets, hheld⟩ := welcome_sends s r
    rcases hwelcome : s.welcome r with ⟨f | u, s₁, r₁⟩ <;> rw [hwelcome] at hgreets hheld
    · have htick : s.tick c r = (.error (.fault f), s₁, c, r₁) := by
        rw [tick, if_pos hrun, hwelcome]
      have hdue : s.dueNow c r = s.welcoming r := by
        rw [dueNow, if_pos hrun, hwelcome, List.append_nil]
      refine ⟨looked, greeted, [], [], ⟨?_, ?_, ?_, ?_, by simp⟩⟩
      · rw [htick, List.append_nil, List.append_nil]
        exact hgreets.exchanges_eq
      · rw [List.append_nil]
        exact hgreets.silent
      · rw [hdue, List.append_nil, hgreets.sends_eq]
      · intro h data a hmem ha
        have hok := (hheld h data a hmem).2.2 ha
        contradiction
    · have htick : s.tick c r = s₁.serve c r₁ := by
        rw [tick, if_pos hrun, hwelcome]
      have hdue : s.dueNow c r = s.welcoming r ++ s₁.reply c r₁ := by
        rw [dueNow, if_pos hrun, hwelcome]
      obtain ⟨read, replied, hreplies, hkept⟩ := serve_sends s₁ c r₁
      have hall := hreplies.exchanges_eq
      rw [hgreets.exchanges_eq, List.append_assoc] at hall
      refine ⟨looked, greeted, read, replied, ⟨?_, ?_, ?_, ?_, ?_⟩⟩
      · rw [htick, hall]
      · intro x hx
        rcases List.mem_append.mp hx with hx | hx
        · exact hgreets.silent x hx
        · exact hreplies.silent x hx
      · rw [hdue, sends_append, hgreets.sends_eq, hreplies.sends_eq]
      · intro h data a hmem ha
        obtain ⟨hclient, hbuffer, -⟩ := hheld h data a hmem
        obtain ⟨size, b, more, hreceives⟩ := serve_receives s₁ c r₁ hclient hbuffer
        rw [hreplies.exchanges_eq] at hreceives
        exact ⟨size, b, more, List.append_cancel_left hreceives⟩
      · intro h data a hmem ha
        obtain ⟨hclient, hok⟩ := hkept h data a hmem
        rw [htick]
        exact ⟨hok ha, hclient⟩

theorem sends_of_silent {xs : List (Exchange H)} (h : ∀ x ∈ xs, x.sent? = none) : sends xs = [] :=
  List.filterMap_eq_nil_iff.mpr h

theorem sends_tick : sends (s.tick c r).2.2.2.exchanges = sends r.exchanges ++ s.dueNow c r := by
  obtain ⟨looked, greeted, read, replied, htick⟩ := exists_tick s c r
  have hlooked : sends looked = [] :=
    sends_of_silent fun x hx => htick.silent x (List.mem_append_left _ hx)
  have hread : sends read = [] :=
    sends_of_silent fun x hx => htick.silent x (List.mem_append_right _ hx)
  rw [htick.exchanges_eq, ← htick.sends_eq]
  simp only [sends_append, hlooked, hread, List.nil_append]

/-- Over ticks one after the other, what is sent is what there was to send in each of them. -/
theorem sends_ticks (n : Nat) :
    sends (s.ticks n c r).2.2.exchanges = sends r.exchanges ++ s.dueOver n c r := by
  induction n generalizing s c r with
  | zero => exact (List.append_nil _).symm
  | succ n ih =>
    rw [ticks, dueOver, ← List.append_assoc, ← sends_tick]
    exact ih _ _ _

end Server

end LiveConsole.Net
