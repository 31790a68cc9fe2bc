import LiveConsole.Proofs.Net.Dialing
import LiveConsole.Proofs.Net.Sessions

/-!
# Continuity of sessions

The messages of a session are its complete lines in their order, however the octets arrived and wherever a
call gave up. What no call has returned stays in the buffer until the client connects anew.
-/

namespace LiveConsole.Net
set_option autoImplicit false

variable {W H ε τ : Type}

namespace Client

/-- The lines that were returned as messages, and a buffer that holds all the rest. -/
def Session.Kept (s : Session H) (room : Nat) (buffer : List UInt8) : Prop :=
  ∃ taken, (∀ p ∈ taken, newline ∉ p) ∧ s.received = joined taken ++ buffer ∧
    taken.map (Client.message? room) = s.returned.map fun d => .ok (some d)

namespace Session

variable {s : Session H} {room : Nat} {b b' : List UInt8}

theorem kept_new (socket : Option H) : (Session.mk socket [] []).Kept room [] :=
  ⟨[], by simp, rfl, rfl⟩

theorem Kept.faithful (h : s.Kept room b) : s.Faithful room := by
  obtain ⟨taken, hwhole, hreceived, htaken⟩ := h
  rw [Faithful, hreceived, frames_joined_append hwhole, List.map_append, htaken]
  exact List.prefix_append _ _

theorem Kept.due_eq (h : s.Kept room b) (more : List UInt8) :
    s.due (s.received ++ more) = (frames (b ++ more)).head? := by
  obtain ⟨taken, hwhole, hreceived, htaken⟩ := h
  have hlength : taken.length = s.returned.length := by
    simpa using congrArg List.length htaken
  rw [due, hreceived, List.append_assoc, frames_joined_append hwhole, ← hlength,
    List.getElem?_append_right (Nat.le_refl _), Nat.sub_self, List.head?_eq_getElem?]

theorem Kept.buffer_eq (h : s.Kept room b) :
    b = joined ((frames s.received).drop s.returned.length) ++ remainder s.received := by
  obtain ⟨taken, hwhole, hreceived, htaken⟩ := h
  have hlength : taken.length = s.returned.length := by
    simpa using congrArg List.length htaken
  obtain ⟨ps, rest, hps, hrest, rfl⟩ := exists_eq_joined_append b
  rw [hreceived, frames_joined_append hwhole, remainder_joined_append hwhole,
    frames_joined hps hrest, remainder_joined hps hrest, ← hlength, List.drop_left]

/-- Octets that arrive stay, and a line that is returned goes. -/
theorem Kept.after (h : s.Kept room b) {e : Episode H ε} {rounds : Nat}
    {ending : Ending (Interruption ε)} (hreport : e.report = .waited rounds ending)
    (hdrawn : Drawn room (b ++ arrived e.exchanges) ending b') : (s.after e).Kept room b' := by
  obtain ⟨taken, hwhole, hreceived, htaken⟩ := h
  cases hdrawn with
  | @message line _ d hline ho hd =>
    refine ⟨taken ++ [line], ?_, ?_, ?_⟩
    · intro p hp
      rcases List.mem_append.mp hp with hp | hp
      · exact hwhole p hp
      · rwa [List.mem_singleton.mp hp]
    · rw [Session.after, hreceived, List.append_assoc, ho]
      simp
    · simp [Session.after, hreport, Report.message?, htaken, hd]
  | failed hn =>
    refine ⟨taken, hwhole, ?_, ?_⟩
    · rw [Session.after, hreceived, List.append_assoc]
    · simp [Session.after, hreport, Report.message?, htaken]
  | unfinished =>
    refine ⟨taken, hwhole, ?_, ?_⟩
    · rw [Session.after, hreceived, List.append_assoc]
    · simp [Session.after, hreport, Report.message?, htaken]

theorem Kept.after_silent (h : s.Kept room b) {e : Episode H ε} (hmessage : e.report.message? = none)
    (hoctets : arrived e.exchanges = []) : (s.after e).Kept room b := by
  simpa [Session.after, hmessage, hoctets, Kept] using h

/-- While no line is complete, nothing is due. -/
theorem Kept.due_of_not_mem (h : s.Kept room b) (more : List UInt8) (hn : newline ∉ b ++ more) :
    s.due (s.received ++ more) = none := by
  rw [h.due_eq, frames_of_not_mem hn]
  rfl

theorem Kept.legible (h : s.Kept room b) {more : List UInt8} (hl : Legible room (s.received ++ more)) :
    Legible room (b ++ more) := by
  obtain ⟨taken, hwhole, hreceived, _⟩ := h
  intro p hp
  refine hl p ?_
  rw [hreceived, List.append_assoc, frames_joined_append hwhole]
  exact List.mem_append_right taken hp

theorem Kept.newline_mem_of_due (h : s.Kept room b) (hdue : s.due s.received ≠ none) :
    newline ∈ b := by
  refine Decidable.byContradiction fun hn => hdue ?_
  have hnone := h.due_of_not_mem [] (by rwa [List.append_nil])
  rwa [List.append_nil] at hnone

/-- A wait, with other calls before and after it. -/
theorem Kept.collected (h : s.Kept room b) {e : Episode H ε} {socket : Option H} {rounds : Nat}
    {ending : Ending (Interruption ε)} {before xs after : List (Exchange H)}
    (hreport : e.report = .waited rounds ending) (he : e.exchanges = before ++ xs ++ after)
    (hbefore : ∀ x ∈ before, x.asks = false) (hafter : ∀ x ∈ after, x.asks = false)
    (hs : socket = none ∨ socket = s.socket) (hc : Collected room socket rounds b xs ending b')
    (hl : Legible room (s.after e).received) :
    e.Exact room s rounds ending ∧ (s.after e).Kept room b' := by
  have hoctets : arrived e.exchanges = arrived xs := he ▸ arrived_between hbefore hafter
  have hlegible : Legible room (b ++ arrived xs) := hoctets ▸ h.legible hl
  have hdrawn := hc.drawn hlegible
  rw [← hoctets] at hdrawn
  refine ⟨⟨?_, ?_, ?_, ?_, ?_⟩, h.after hreport hdrawn⟩
  · intro x hx hasks
    rw [he, List.mem_append, List.mem_append] at hx
    rcases hx with (hx | hx) | hx
    · rw [hbefore x hx] at hasks
      contradiction
    · obtain ⟨k, a, hk, rfl⟩ := hc.asked x hx
      rcases hs with hnone | hsome
      · rw [hnone] at hk
        contradiction
      · exact ⟨k, a, hsome ▸ hk, rfl⟩
    · rw [hafter x hx] at hasks
      contradiction
  · rintro d rfl
    cases hdrawn with
    | @message line _ _ hline ho hd =>
      refine ⟨line, ?_, hd⟩
      rw [Session.after, h.due_eq, ho, frames_line hline, List.head?_cons]
  · rintro f rfl
    cases hdrawn with
    | failed hn => exact .inl (h.due_of_not_mem _ hn)
  · intro hu
    rw [he, countP_asks_between hbefore hafter, hc.countP_asks_of_unfinished hu]
  · intro hdue hrounds
    obtain ⟨hxs, hmessage⟩ :=
      hc.message_of_newline hlegible (h.newline_mem_of_due hdue) hrounds
    refine ⟨?_, .inl hmessage⟩
    rw [he, countP_asks_between hbefore hafter, hxs, List.countP_nil]

/-- A poll that was not begun. -/
theorem Kept.unbegun (h : s.Kept room b) {e : Episode H ε} {rounds : Nat} {f : Interruption ε}
    (hreport : e.report = .waited rounds (.failed f)) (hf : e.Unbegun f)
    (hsilent : ∀ x ∈ e.exchanges, x.asks = false) :
    e.Exact room s rounds (.failed f) ∧ (s.after e).Kept room b := by
  refine ⟨⟨?_, ?_, ?_, ?_, ?_⟩, h.after_silent (by rw [hreport]; rfl) (arrived_of_silent hsilent)⟩
  · intro x hx hasks
    rw [hsilent x hx] at hasks
    contradiction
  · intro d hd
    contradiction
  · rintro g hg
    cases hg
    exact .inr hf
  · intro hu
    contradiction
  · intro _ _
    exact ⟨countP_asks_of_silent hsilent, .inr ⟨f, rfl, hf⟩⟩

end Session

/-- What a client holds, with its sessions so far. -/
inductive Standing (room : Nat) (c : Client H) : List (Session H) → Prop where
  | fresh (hroom : c.room = room) (hs : c.socket = none) (hb : c.buffer = []) : Standing room c []
  | held {s : Session H} {past : List (Session H)} (hroom : c.room = room)
      (hs : c.socket = none ∨ c.socket = s.socket) (hkept : s.Kept room c.buffer)
      (hpast : ∀ u ∈ past, u.Faithful room) : Standing room c (s :: past)

/-- An episode fits its past, and the client stands in the sessions after it. -/
structure Step (room : Nat) (past : List (Session H)) (e : Episode H ε) (c : Client H) : Prop where
  fits : e.Fits room past
  standing : Standing room c (e.enter past)

namespace Standing

variable {room : Nat} {c : Client H} {past : List (Session H)}

theorem room_eq (h : Standing room c past) : c.room = room := by
  cases h with
  | fresh hroom hs hb => exact hroom
  | held hroom hs hkept hpast => exact hroom

theorem faithful (h : Standing room c past) : ∀ s ∈ past, s.Faithful room := by
  cases h with
  | fresh => simp
  | held _ hs hkept hpast => exact List.forall_mem_cons.mpr ⟨hkept.faithful, hpast⟩

/-- An act that makes no connection and does not wait. -/
theorem step_of_silent (h : Standing room c past) {e : Episode H ε} {c' : Client H}
    (hreport : (∃ answer, e.report = .done answer) ∨ ∃ f, e.report = .connected (.error f))
    (hsilent : ∀ x ∈ e.exchanges, x.asks = false) (hr : c'.room = c.room)
    (hs : c'.socket = none ∨ c'.socket = c.socket) (hb : c'.buffer = c.buffer) :
    Step room past e c' := by
  have hoctets := arrived_of_silent hsilent
  have hmessage : e.report.message? = none := by
    rcases hreport with ⟨_, hreport⟩ | ⟨_, hreport⟩ <;> rw [hreport] <;> rfl
  have hfits : e.Fits room past := by
    rcases hreport with ⟨_, hreport⟩ | ⟨_, hreport⟩ <;>
      simpa only [Episode.Fits, hreport] using hoctets
  cases h with
  | fresh hroom hnone hempty =>
    have hstands : Standing room c' ([] : List (Session H)) :=
      .fresh (hr.trans hroom) (hs.elim id fun h => h.trans hnone) (hb.trans hempty)
    refine ⟨hfits, ?_⟩
    rcases hreport with ⟨_, hreport⟩ | ⟨_, hreport⟩ <;>
      simpa only [Episode.enter, hreport] using hstands
  | @held s past hroom hsocket hkept hpast =>
    have hkept' : (s.after e).Kept room c'.buffer := hb ▸ hkept.after_silent hmessage hoctets
    have hstands : Standing room c' (s.after e :: past) :=
      .held (hr.trans hroom) (hs.elim .inl fun h => h ▸ hsocket) hkept' hpast
    refine ⟨hfits, ?_⟩
    rcases hreport with ⟨_, hreport⟩ | ⟨_, hreport⟩ <;>
      simpa only [Episode.enter, hreport] using hstands

end Standing

/-- The ways in which an act waits: it collects, with other calls before and after it, or it was not
begun. -/
inductive Waited (c : Client H) (e : Episode H ε) (rounds : Nat) :
    Ending (Interruption ε) → List UInt8 → Prop where
  | collected (before after : List (Exchange H)) {xs : List (Exchange H)} {ending : Ending (Interruption ε)}
      {b : List UInt8} (he : e.exchanges = before ++ xs ++ after)
      (hbefore : ∀ x ∈ before, x.asks = false) (hafter : ∀ x ∈ after, x.asks = false)
      (hc : Collected c.room c.socket rounds c.buffer xs ending b) : Waited c e rounds ending b
  | unbegun {f : Interruption ε} (hf : e.Unbegun f)
      (hsilent : ∀ x ∈ e.exchanges, x.asks = false) : Waited c e rounds (.failed f) c.buffer

theorem Polled.waited {c : Client H} {e : Episode H ε} {rounds : Nat}
    {ending : Ending (Interruption ε)} {b : List UInt8}
    (h : Polled c.room c.socket rounds c.buffer e.exchanges ending b) (hr : e.Restored) :
    Waited c e rounds ending b := by
  generalize hxs : e.exchanges = xs at h
  cases h with
  | immeasurable => exact .unbegun (.inr (.inl ⟨rfl, hxs⟩)) (by simp [hxs])
  | unconnected => exact .unbegun (.inl rfl) (by simp [hxs])
  | refused => exact .unbegun (.inr (.inr ⟨_, _, rfl, hxs⟩)) (by simp [hxs, Exchange.asks])
  | @unfinished h xs _ _ hc =>
    exact .collected [.timed h (.ok ())] [] (by simpa using hxs)
      (by simp [Exchange.asks]) (by simp) hc
  | @restored h xs _ _ _ hc =>
    exact .collected [.timed h (.ok ())] [.timed h (.ok ())]
      (by simpa using hxs) (by simp [Exchange.asks]) (by simp [Exchange.asks]) hc
  | @unrestored h f xs _ _ _ hc =>
    have hrefuses := hr (.timed h (.error f)) (by rw [hxs]; simp)
    contradiction

namespace Standing

variable {room : Nat} {c : Client H} {past : List (Session H)}

/-- Without a connection nothing arrives. -/
theorem waited_of_fresh {e : Episode H ε} {rounds : Nat} {ending : Ending (Interruption ε)}
    {b : List UInt8} (hs : c.socket = none) (hb : c.buffer = []) (h : Waited c e rounds ending b) :
    arrived e.exchanges = [] ∧ (∀ d, ending ≠ .message d) ∧ b = [] := by
  cases h with
  | unbegun hf hsilent =>
    exact ⟨arrived_of_silent hsilent, fun d hd => by contradiction, hb⟩
  | @collected before after xs _ _ he hbefore hafter hc =>
    rw [hs, hb] at hc
    have hxs : xs = [] := by
      refine List.eq_nil_iff_forall_not_mem.mpr fun x hx => ?_
      obtain ⟨_, _, hnone, _⟩ := hc.asked x hx
      contradiction
    subst hxs
    have hdrawn : Drawn c.room ([] : List UInt8) ending b := hc.drawn (by simp [Legible, frames])
    refine ⟨by rw [he, arrived_between hbefore hafter, arrived_nil], ?_, ?_⟩
    · rintro d rfl
      cases hdrawn with
      | message hline ho hd => simp at ho
    · cases hdrawn with
      | message hline ho hd => simp at ho
      | failed | unfinished => rfl

theorem step_of_waited (h : Standing room c past) {e : Episode H ε} {c' : Client H} {rounds : Nat}
    {ending : Ending (Interruption ε)} {b : List UInt8} (hreport : e.report = .waited rounds ending)
    (hwait : Waited c e rounds ending b) (hc' : c' = { c with buffer := b })
    (hl : ∀ s ∈ e.enter past, Legible room s.received) : Step room past e c' := by
  subst hc'
  cases h with
  | fresh hroom hs hb =>
    obtain ⟨hoctets, hmessage, rfl⟩ := waited_of_fresh hs hb hwait
    refine ⟨by simpa only [Episode.Fits, hreport] using ⟨hoctets, hmessage⟩, ?_⟩
    simpa only [Episode.enter, hreport] using .fresh hroom hs rfl
  | @held s past hroom hs hkept hpast =>
    subst hroom
    have henter : e.enter (s :: past) = s.after e :: past := by
      simp only [Episode.enter, hreport]
    have hlegible : Legible c.room (s.after e).received := hl _ (by rw [henter]; exact List.mem_cons_self)
    have hboth : e.Exact c.room s rounds ending ∧ (s.after e).Kept c.room b := by
      cases hwait with
      | collected before after he hbefore hafter hc =>
        exact hkept.collected hreport he hbefore hafter hs hc hlegible
      | unbegun hf hsilent => exact hkept.unbegun hreport hf hsilent
    refine ⟨by simpa only [Episode.Fits, hreport] using hboth.1, ?_⟩
    rw [henter]
    exact .held rfl hs hboth.2 hpast

variable [Sockets W H] [Clock W τ] [LT τ] [DecidableLT τ] [Add τ]

/-- Nothing of an earlier connection is left when a new one is made. -/
theorem step_connect (h : Standing room c past) (w : W) :
    Step room past (episode (Act.connect : Act W ε) c w).1 (episode (Act.connect : Act W ε) c w).2.1 := by
  have hrec : Sockets.connect c.host c.port c.timeout (Recorded.mk w ([] : List (Exchange H))) =
    Recorded.pass (Sockets.connect c.host c.port c.timeout) ⟨w, []⟩ := rfl
  rcases hcall : Sockets.connect c.host c.port c.timeout w with ⟨f | k, w'⟩
  · have hep : episode (Act.connect : Act W ε) c w =
        (⟨.connected (.error (.fault f)), c.socket, []⟩, c, w') := by
      simp [episode, perform, Act.onRecord, connect, hrec, Recorded.pass, hcall]
    rw [hep]
    exact h.step_of_silent (.inr ⟨_, rfl⟩) (by simp) rfl (.inr rfl) rfl
  · have hep : episode (Act.connect : Act W ε) c w = (⟨.connected (.ok ()), some k, []⟩,
        { c with socket := some k, buffer := [] }, w') := by
      simp [episode, perform, Act.onRecord, connect, hrec, Recorded.pass, hcall]
    rw [hep]
    exact ⟨rfl, .held h.room_eq (.inr rfl) (Session.kept_new _) h.faithful⟩

theorem step_close (h : Standing room c past) (w : W) :
    Step room past (episode (Act.close : Act W ε) c w).1 (episode (Act.close : Act W ε) c w).2.1 := by
  cases hs : c.socket with
  | none =>
    have hep : episode (Act.close : Act W ε) c w = (⟨.done (.ok ()), none, []⟩, c, w) := by
      simp [episode, perform, Act.onRecord, close, hs]
    rw [hep]
    exact h.step_of_silent (.inl ⟨_, rfl⟩) (by simp) rfl (.inl hs) rfl
  | some k =>
    rcases hclose : Sockets.close k w with ⟨f | ⟨⟩, w'⟩
    · have hrec := Recorded.close_of_eq (r := ⟨w, []⟩) hclose
      have hep : episode (Act.close : Act W ε) c w =
          (⟨.done (.error (.fault f)), c.socket, [.closed k (.error f)]⟩, c, w') := by
        simp [episode, perform, Act.onRecord, close, hs, hrec]
      rw [hep]
      exact h.step_of_silent (.inl ⟨_, rfl⟩) (by simp [Exchange.asks]) rfl (.inr rfl) rfl
    · have hrec := Recorded.close_of_eq (r := ⟨w, []⟩) hclose
      have hep : episode (Act.close : Act W ε) c w =
          (⟨.done (.ok ()), none, [.closed k (.ok ())]⟩, { c with socket := none }, w') := by
        simp [episode, perform, Act.onRecord, close, hs, hrec]
      rw [hep]
      exact h.step_of_silent (.inl ⟨_, rfl⟩) (by simp [Exchange.asks]) rfl (.inl rfl) rfl

theorem step_send (h : Standing room c past) (data : Except Failure (List UInt8)) (w : W) :
    Step room past (episode (Act.send data : Act W ε) c w).1
      (episode (Act.send data : Act W ε) c w).2.1 := by
  refine h.step_of_silent (.inl ⟨_, rfl⟩) ?_ rfl (.inr rfl) rfl
  change ∀ x ∈ (c.send data (Recorded.mk w ([] : List (Exchange H)))).2.exchanges, x.asks = false
  cases hs : c.socket with
  | none => simp [send, hs]
  | some k =>
    cases data with
    | error e => simp [send, hs]
    | ok octets =>
      rcases hsend : Sockets.sendAll k octets w with ⟨f | u, w'⟩
      · simp [send, hs, Recorded.sendAll_of_eq (r := ⟨w, []⟩) hsend, Exchange.asks]
      · simp [send, hs, Recorded.sendAll_of_eq (r := ⟨w, []⟩) hsend, Exchange.asks]

theorem step (h : Standing room c past) (a : Act W ε) (w : W) (hr : (episode a c w).1.Restored)
    (hl : ∀ s ∈ (episode a c w).1.enter past, Legible room s.received) :
    Step room past (episode a c w).1 (episode a c w).2.1 := by
  cases a with
  | connect => exact h.step_connect w
  | close => exact h.step_close w
  | send data => exact h.step_send data w
  | read rounds =>
    obtain ⟨xs, b, hcollected, hclient, hexchanges⟩ :=
      collects_readMessage (ε := ε) rounds c (Recorded.mk w [])
    refine h.step_of_waited rfl (.collected [] [] ?_ (by simp) (by simp)
      hcollected) hclient hl
    rw [List.append_nil]
    exact hexchanges
  | poll rounds tick limit interval =>
    obtain ⟨xs, b, hpolled, hclient, hexchanges⟩ :=
      polled rounds (Recorded.pass tick) (fun _ => rfl) limit interval c (Recorded.mk w [])
    rw [List.nil_append] at hexchanges
    rw [← hexchanges] at hpolled
    exact h.step_of_waited rfl (Polled.waited hpolled hr) hclient hl

end Standing

theorem enter_cons (e : Episode H ε) (s : Session H) (past : List (Session H)) :
    e.enter (s :: past) = ⟨e.socket, [], []⟩ :: s :: past ∨
      e.enter (s :: past) = s.after e :: past := by
  obtain ⟨(f | ⟨⟩) | answer | ⟨rounds, ending⟩, socket, exchanges⟩ := e
  · exact .inr rfl
  · exact .inl rfl
  · exact .inr rfl
  · exact .inr rfl

theorem exists_prefix_enter (e : Episode H ε) {past : List (Session H)} {s : Session H}
    (hs : s ∈ past) : ∃ s' ∈ e.enter past, s.received <+: s'.received := by
  cases past with
  | nil => contradiction
  | cons u past =>
    rcases enter_cons e u past with henter | henter
    · rw [henter]
      exact ⟨s, List.mem_cons_of_mem _ hs, List.prefix_rfl⟩
    · rw [henter]
      rcases List.mem_cons.mp hs with rfl | hs
      · exact ⟨_, List.mem_cons_self, List.prefix_append _ _⟩
      · exact ⟨s, List.mem_cons_of_mem _ hs, List.prefix_rfl⟩

theorem exists_prefix_foldl (es : List (Episode H ε)) {past : List (Session H)} {s : Session H}
    (hs : s ∈ past) : ∃ s' ∈ es.foldl Episode.enter past, s.received <+: s'.received := by
  induction es generalizing past s with
  | nil => exact ⟨s, hs, List.prefix_rfl⟩
  | cons e es ih =>
    obtain ⟨u, hu, hprefix⟩ := exists_prefix_enter e hs
    obtain ⟨s', hs', hprefix'⟩ := ih hu
    exact ⟨s', hs', hprefix.trans hprefix'⟩

variable [Sockets W H] [Clock W τ] [LT τ] [DecidableLT τ] [Add τ]

theorem Standing.run {room : Nat} {c : Client H} {past : List (Session H)} (h : Standing room c past)
    (acts : List (Act W ε)) (w : W) (hr : ∀ e ∈ (play acts c w).1, e.Restored)
    (hl : ∀ s ∈ (play acts c w).1.foldl Episode.enter past, Legible room s.received) :
    Standing room (play acts c w).2.1 ((play acts c w).1.foldl Episode.enter past) ∧
      ∀ before e later, (play acts c w).1 = before ++ e :: later →
        e.Fits room (before.foldl Episode.enter past) := by
  induction acts generalizing c past w with
  | nil => exact ⟨h, fun before e later heq => by simp [play] at heq⟩
  | cons a more ih =>
    obtain ⟨hfirst, hrest⟩ := List.forall_mem_cons.mp hr
    have hnow : ∀ s ∈ (episode a c w).1.enter past, Legible room s.received := by
      intro s hs
      obtain ⟨s', hs', later, hlater⟩ :=
        exists_prefix_foldl (play more (episode a c w).2.1 (episode a c w).2.2).1 hs
      have := hl s' hs'
      rw [← hlater] at this
      exact this.left
    obtain ⟨hfits, hstands⟩ := h.step a w hfirst hnow
    obtain ⟨hend, hlater⟩ := ih hstands (episode a c w).2.2 hrest hl
    refine ⟨hend, ?_⟩
    intro before e later heq
    cases before with
    | nil =>
      obtain ⟨rfl, _⟩ := List.cons.inj heq
      exact hfits
    | cons u before =>
      obtain ⟨rfl, htail⟩ := List.cons.inj heq
      exact hlater before e later htail

/-- Over any network, where every complete line that arrives is a message. -/
theorem sessions_exact (acts : List (Act W ε)) (c : Client H) (w : W) (hs : c.socket = none)
    (hb : c.buffer = []) (hr : ∀ e ∈ (play acts c w).1, e.Restored)
    (hl : ∀ s ∈ sessions (play acts c w).1, Legible c.room s.received) :
    (∀ s ∈ sessions (play acts c w).1, s.Faithful c.room) ∧
    (∀ s past, sessions (play acts c w).1 = s :: past → (play acts c w).2.1.buffer =
      joined ((frames s.received).drop s.returned.length) ++ remainder s.received) ∧
    ((play acts c w).1.map Episode.report, (play acts c w).2) = performs acts c w ∧
    ∀ before e later, (play acts c w).1 = before ++ e :: later → e.Fits c.room (sessions before) := by
  have hstart : Standing c.room c ([] : List (Session H)) := .fresh rfl hs hb
  obtain ⟨hend, hfits⟩ := hstart.run acts w hr hl
  refine ⟨hend.faithful, ?_, map_report_play acts c w, hfits⟩
  intro s past heq
  have hlast : Standing c.room (play acts c w).2.1 (s :: past) := heq ▸ hend
  cases hlast with
  | held _ hsocket hkept hpast => exact hkept.buffer_eq

end Client

namespace Dialing

open Arrival (portion)
open Client

/-- On the first connection a message comes in two portions, with pauses between them, and another one
is never finished. -/
def interrupted : Dialing :=
  ⟨⟨[route (portion "\x7b\"a\": 1\x7d\n\x7b\"b\"" ++ [late, late] ++ portion ": 2\x7d\n\x7b\"c\""),
    route (portion "\x7b\"d\": 4\x7d\n")], []⟩, 0⟩

def visitor : Client Nat := Client.new Client.defaultHost Client.defaultPort (.int 5) 0

/-- The poll gives up in the middle of the second message. -/
def interruptedActs : List (Act Dialing Empty) :=
  [.connect, .read 2, .poll 3 (fun w => (.ok (), w)) (some (.int 0)) (.int 1), .read 2, .read 2,
    .connect, .read 2, .close]

theorem restored_interrupted : ∀ e ∈ (play interruptedActs visitor interrupted).1, e.Restored := by
  decide +kernel

theorem legible_interrupted :
    ∀ s ∈ sessions (play interruptedActs visitor interrupted).1, Legible visitor.room s.received := by
  decide +kernel

/-- Both messages of the first connection are returned, and of its rest nothing is. -/
theorem interrupted_exact :
    (∀ e ∈ (play interruptedActs visitor interrupted).1, e.Restored) ∧
    (∀ s ∈ sessions (play interruptedActs visitor interrupted).1,
      Legible visitor.room s.received ∧ s.Faithful visitor.room) ∧
    (sessions (play interruptedActs visitor interrupted).1).map (fun s => s.returned.length) =
      [1, 2] ∧
    ∀ before e later, (play interruptedActs visitor interrupted).1 = before ++ e :: later →
      e.Fits visitor.room (sessions before) := by
  obtain ⟨hfaithful, _, _, hfits⟩ := sessions_exact interruptedActs visitor interrupted rfl rfl
    restored_interrupted legible_interrupted
  refine ⟨restored_interrupted, fun s hs => ⟨legible_interrupted s hs, hfaithful s hs⟩, ?_, hfits⟩
  decide +kernel

end Dialing

end LiveConsole.Net
