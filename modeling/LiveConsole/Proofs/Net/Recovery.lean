import LiveConsole.Console.Scripts
import LiveConsole.Proofs.Console.Requests
import LiveConsole.Proofs.Net.Serving
import LiveConsole.Proofs.Net.Sheltered
import LiveConsole.Proofs.Net.Unfailing

/-!
# Lines that fail

In an orderly network a tick fails only if the line that it serves does. Then the server and the network
are left as they would be after a line that is ignored; only the context is what the line made of it.
-/

namespace LiveConsole
set_option autoImplicit false

namespace Evaluator

variable {L : Language}

/-- Lines that are passed over: empty ones, and those that are refused. -/
def Ignored (room : Nat) (line : Text) : Prop :=
  line = [] ∨ ∃ why, Request.decode room line = .error (.refused why)

theorem handleLine_of_ignored {line : Text} (h : Ignored L.room line) (c : Context L) :
    handleLine c line = (.ok none, c) := by
  rcases h with rfl | ⟨why, hwhy⟩
  · rfl
  · cases hempty : line.isEmpty <;> simp [handleLine, hempty, hwhy]

/-- What a line is answered with can be sent. -/
theorem exists_encode_handleLine (c : Context L) (line : Text) {r : Response}
    (h : (handleLine c line).1 = .ok (some r)) : ∃ octets, r.encode = .ok octets := by
  unfold handleLine at h
  cases hempty : line.isEmpty with
  | true => simp [hempty] at h
  | false =>
    rcases hdecode : Request.decode L.room line with ⟨why | how⟩ | request
    · simp [hempty, hdecode] at h
    · simp [hempty, hdecode] at h
    · rcases heval : evaluate c request.expression with ⟨e | r', c'⟩
      · simp [hempty, hdecode, heval] at h
      · obtain rfl : r' = r := by simpa [hempty, hdecode, heval] using h
        exact exists_encode_evaluate c request.expression (congrArg Prod.fst heval)

end Evaluator

namespace Net

variable {W H : Type} [Sockets W H] {L : Language}

namespace Listener

/-- A line that is handed out was read from the client. -/
theorem exists_reading {l l' : Listener H} {w w' : W} {line : Text}
    (hreceive : receiveLine l w = (.ok (some line), l', w')) :
    ∃ h octets, l.client = some h ∧ line = lineText octets ∧ Reading l h w octets l' w' := by
  have hdrop (l₁ : Listener H) (w₁ : W) :
      (.ok (some line), l', w') ≠ dropping (dropClient l₁ w₁) := by
    intro heq
    generalize dropClient l₁ w₁ = out at heq
    rcases out with ⟨f | u, rest⟩ <;> simp [dropping, Except.map] at heq
  cases hc : l.client with
  | none =>
    rw [receiveLine_of_no_client hc] at hreceive
    simp at hreceive
  | some h =>
    have hasking := asking hc w
    rw [hreceive] at hasking
    generalize hout : (Except.ok (some line), l', w') = out at hasking
    cases hasking with
    | @line octets _ _ hread =>
      obtain ⟨hline, rfl, rfl⟩ : line = lineText octets ∧ l' = _ ∧ w' = _ := by simpa using hout
      exact ⟨h, octets, rfl, hline, hread⟩
    | kept => simp at hout
    | @quiet f =>
      cases hf : f.isA .systemError <;> simp [hf] at hout
    | overlong => exact (hdrop _ _ hout).elim
    | ended => exact (hdrop _ _ hout).elim

end Listener

namespace Server

/-- The first part of a tick, which ends with the line that it is to serve. -/
inductive Reaches (s : Server H) (w : W) (line : Text) : Server H → W → Prop where
  | intro {s₁ : Server H} {l : Listener H} {w₁ w' : W} (hwelcome : s.welcome w = (.ok (), s₁, w₁))
      (hreceive : s₁.listener.receiveLine w₁ = (.ok (some line), l, w')) :
      Reaches s w line { s₁ with listener := l } w'

/-- A server that has yet to take a line off its buffer. -/
def before (octets : List UInt8) (s : Server H) : Server H :=
  { s with listener := { s.listener with buffer := octets ++ newline :: s.listener.buffer } }

namespace Reaches

variable {s s' : Server H} {w w' : W} {line : Text}

theorem tick_eq (h : s.Reaches w line s' w') (hrun : s.running = true) (c : Context L) :
    s.tick c w =
      ((s'.answer c line w').1, s', (s'.answer c line w').2.1, (s'.answer c line w').2.2) := by
  cases h with
  | intro hwelcome hreceive =>
    rw [tick, if_pos hrun, hwelcome]
    simp only [serve, hreceive]

theorem running_eq (h : s.Reaches w line s' w') : s'.running = s.running := by
  cases h with
  | intro hwelcome hreceive =>
    have hlistener := listener_welcome s w
    rw [hwelcome] at hlistener
    dsimp only at hlistener ⊢
    rw [hlistener]

/-- The line was taken off what there was from the client, which is still held. -/
theorem exists_reading (h : s.Reaches w line s' w') :
    ∃ l k octets w₁, line = lineText octets ∧ Reading l k w₁ octets s'.listener w' ∧
      l.client = some k ∧ s'.listener.client = some k := by
  cases h with
  | @intro s₁ l w₁ _ _ hreceive =>
    obtain ⟨k, octets, hc, hline, hread⟩ := Listener.exists_reading hreceive
    refine ⟨s₁.listener, k, octets, w₁, hline, hread, hc, ?_⟩
    rw [hread.eq_with_buffer.2]
    exact hc

/-- Any line in the buffer is reached before the rest of it. -/
theorem of_buffer {k : H} (hc : s.listener.client = some k) {octets : List UInt8}
    (hoctets : newline ∉ octets) (w : W) : (s.before octets).Reaches w (lineText octets) s w := by
  have hheld : (s.before octets).listener.client = some k := hc
  have hwelcome : (s.before octets).welcome w = (.ok (), s.before octets, w) := by
    rw [welcome, Listener.acceptIfNone_of_client hheld]
  have hreceive : (s.before octets).listener.receiveLine w =
      (.ok (some (lineText octets)), s.listener, w) :=
    Listener.receiveLine_of_buffered hheld hoctets rfl w
  have hreaches := Reaches.intro hwelcome hreceive
  exact hreaches

end Reaches

theorem answer_of_error {s : Server H} {c c' : Context L} {line : Text} {e : Evaluator.Escape L}
    (he : Evaluator.handleLine c line = (.error e, c')) (w : W) :
    s.answer c line w = (.error (.line e), c', w) := by
  rw [answer, he]

theorem answer_of_ignored {s : Server H} {line : Text} (h : Evaluator.Ignored L.room line)
    (c : Context L) (w : W) : s.answer c line w = (.ok (), c, w) := by
  rw [answer, Evaluator.handleLine_of_ignored h]

section Orderly
variable (hW : Orderly W)
include hW

theorem send_orderly (s : Server H) {x : Response} (hx : ∃ data, x.encode = .ok data) (w : W) :
    ∃ b w', s.send x w = (.ok b, w') := by
  obtain ⟨data, hdata⟩ := hx
  rw [send, hdata]
  exact s.listener.send_orderly hW w data

theorem welcome_orderly {s : Server H} {banner : Text}
    (hbanner : s.listener.settings.banner = .text banner) (w : W) :
    ∃ s' w', s.welcome w = (.ok (), s', w') := by
  have hkept := Listener.acceptIfNone_kept s.listener w
  obtain ⟨b, l, w₁, haccept⟩ := s.listener.acceptIfNone_orderly hW w
  rw [haccept] at hkept
  cases b with
  | false => exact ⟨_, w₁, by rw [welcome, haccept]⟩
  | true =>
    have hsame : l.settings.banner = .text banner := by
      rcases hkept with rfl | ⟨_, h, rfl⟩ <;> exact hbanner
    obtain ⟨b, w', hsend⟩ := send_orderly hW { s with listener := l }
      (Evaluator.exists_encode_connected banner) w₁
    exact ⟨{ s with listener := l }, w', by rw [welcome, haccept]; simp only [hsame, hsend]⟩

theorem answer_orderly (s : Server H) (c : Context L) (line : Text) (w : W) :
    (s.answer c line w).1 = .ok () ∨ ∃ e, (Evaluator.handleLine c line).1 = .error e ∧
      (s.answer c line w).1 = .error (.line e) := by
  rcases hline : Evaluator.handleLine c line with ⟨e | _ | x, c'⟩
  · exact .inr ⟨e, rfl, by rw [answer_of_error hline]⟩
  · exact .inl (by rw [answer, hline])
  · have hx := Evaluator.exists_encode_handleLine c line (congrArg Prod.fst hline)
    obtain ⟨b, w', hsend⟩ := send_orderly hW s hx w
    exact .inl (by rw [answer, hline]; simp only [hsend])

/-- A tick fails only if the line that it serves does. -/
theorem tick_orderly {s : Server H} (hrun : s.running = true) {banner : Text}
    (hbanner : s.listener.settings.banner = .text banner) (c : Context L) (w : W) :
    (s.tick c w).1 = .ok () ∨ ∃ line s' w' e, s.Reaches w line s' w' ∧
      (Evaluator.handleLine c line).1 = .error e ∧ (s.tick c w).1 = .error (.line e) := by
  obtain ⟨s₁, w₁, hwelcome⟩ := welcome_orderly hW hbanner w
  obtain ⟨line?, l, w', hreceive⟩ := s₁.listener.receiveLine_orderly hW w₁
  cases line? with
  | none =>
    left
    rw [tick, if_pos hrun, hwelcome]
    simp only [serve, hreceive]
  | some line =>
    have hreaches : s.Reaches w line { s₁ with listener := l } w' := .intro hwelcome hreceive
    rw [hreaches.tick_eq hrun]
    rcases answer_orderly hW { s₁ with listener := l } c line w' with hok | ⟨e, he, hanswer⟩
    · exact .inl hok
    · exact .inr ⟨line, _, w', e, hreaches, he, hanswer⟩

/-- In an orderly network a tick fails only if the line that it serves does. Then nothing happened after
the line was taken: the server runs on with the client and with what followed the line, nothing was sent,
and where a line that is ignored comes to the same server and network, all later ticks are the same. So it
does when such a line stands in the place of the one that failed. -/
theorem failing_line_passed {s : Server H} (hrun : s.running = true) {banner : Text}
    (hbanner : s.listener.settings.banner = .text banner) (c : Context L) (w : W) :
    ((s.tick c w).1 = .ok () ∨ ∃ line s' w' e, s.Reaches w line s' w' ∧
      (Evaluator.handleLine c line).1 = .error e ∧ (s.tick c w).1 = .error (.line e)) ∧
    ∀ line s' w' e c', s.Reaches w line s' w' →
      Evaluator.handleLine c line = (.error e, c') →
      s.tick c w = (.error (.line e), s', c', w') ∧ s'.running = true ∧
      (∃ l k octets w₁, line = lineText octets ∧ Reading l k w₁ octets s'.listener w' ∧
        l.client = some k ∧ s'.listener.client = some k) ∧
      (∀ (s₂ : Server H) (w₂ : W) (ignored : Text), s₂.running = true →
        s₂.Reaches w₂ ignored s' w' → Evaluator.Ignored L.room ignored →
        (∀ c₂ : Context L, s₂.tick c₂ w₂ = (.ok (), s', c₂, w')) ∧
          ∀ n, s.ticks (n + 1) c w = s₂.ticks (n + 1) c' w₂) ∧
      ∀ octets, newline ∉ octets → (s'.before octets).Reaches w' (lineText octets) s' w' := by
  refine ⟨tick_orderly hW hrun hbanner c w, ?_⟩
  intro line s' w' e c' hreaches hline
  have htick : s.tick c w = (.error (.line e), s', c', w') := by
    rw [hreaches.tick_eq hrun, answer_of_error hline]
  obtain ⟨l, k, octets, w₁, heq, hread, hbefore, hafter⟩ := hreaches.exists_reading
  refine ⟨htick, hreaches.running_eq.trans hrun,
    ⟨l, k, octets, w₁, heq, hread, hbefore, hafter⟩, ?_,
    fun octets hoctets => .of_buffer hafter hoctets w'⟩
  intro s₂ w₂ ignored hrun₂ hreaches₂ hignored
  have hpassed (c₂ : Context L) : s₂.tick c₂ w₂ = (.ok (), s', c₂, w') := by
    rw [hreaches₂.tick_eq hrun₂, answer_of_ignored hignored]
  refine ⟨hpassed, fun n => ?_⟩
  simp only [ticks, htick, hpassed]

end Orderly

open Arrival (portion)

/-- The first request of the visitor asks the console itself to stop. -/
def interrupting : Sheltered :=
  ⟨⟨[.caller (.visitor ⟨portion
      ("\x7b\"type\": \"evaluate\", \"expression\": \"raise KeyboardInterrupt\"\x7d\n" ++
        "\x7b\"type\": \"evaluate\", \"expression\": \"6 * 7\"\x7d\n"),
      ⟨.ok [], ends_nil⟩, [], .done⟩)], []⟩, [], []⟩

def attentive : Server Nat := ((Server.new Settings.initial).start interrupting).2.1

def blank : Context scripts := Context.new "<repl>"

theorem interruption_passed :
    attentive.running = true ∧
    attentive.listener.settings.banner = .text "UE4SS REPL ready!" ∧
    ∃ line s' w' e c', attentive.Reaches interrupting line s' w' ∧
      Evaluator.handleLine blank line = (.error e, c') ∧
      attentive.tick blank interrupting = (.error (.line e), s', c', w') ∧
      s'.running = true ∧ (∃ k, s'.listener.client = some k) ∧
      (s'.tick c' w').1.isOk = true ∧ (s'.before []).tick c' w' = (.ok (), s', c', w') := by
  obtain ⟨hticks, hlines⟩ :=
    failing_line_passed Sheltered.orderly (s := attentive) rfl rfl blank interrupting
  have hfails : (attentive.tick blank interrupting).1.isOk = false ∧
      (tick (attentive.tick blank interrupting).2.1 (attentive.tick blank interrupting).2.2.1
        (attentive.tick blank interrupting).2.2.2).1.isOk = true := by
    decide +kernel
  rcases hticks with hok | ⟨line, s', w', e, hreaches, hline, _⟩
  · rw [hok] at hfails
    exact absurd hfails.1 (by decide)
  · obtain ⟨htick, hrun, ⟨_, k, _, _, _, _, _, hclient⟩, hpassed, hplaced⟩ :=
      hlines line s' w' e _ hreaches (Prod.ext hline rfl)
    have hagain :=
      (hpassed (s'.before []) w' (lineText []) hrun (hplaced [] (by simp)) (.inl rfl)).1
    rw [htick] at hfails
    exact ⟨rfl, rfl, line, s', w', e, _, hreaches, Prod.ext hline rfl, htick, hrun, ⟨k, hclient⟩,
      hfails.2, hagain _⟩

end Server
end Net
end LiveConsole
