import LiveConsole.Proofs.Console.Requests
import LiveConsole.Proofs.Net.Link
import LiveConsole.Proofs.Net.Reception

/-!
# What passes over a connection

What a tick of the server takes off the requests and puts to the responses, and what a wait of the client
takes off these. Nothing else changes what is on its way.
-/

namespace LiveConsole.Net
set_option autoImplicit false

open Evaluator (handleLine)

variable {L : Language}

/-- The octets of a response; one that cannot be written has none. -/
def octets (r : Response) : List UInt8 := r.encode.toOption.getD []

/-- What is sent for what came of a line. -/
def replied {ε : Type} : Except ε (Option Response) → List UInt8
  | .ok (some r) => octets r
  | _ => []

namespace Link

variable {w w' : Link} {a : Except Fault (List UInt8)} {size : Nat}

theorem received (h : Sockets.receive () size w = (a, w')) :
    w'.calling = w.calling ∧ w'.responses = w.responses ∧
      a.toOption.getD [] ++ w'.requests = w.requests ∧
      (w.requests = [] → a = .error Schedule.tryAgain) := by
  change w.receive size = (a, w') at h
  unfold receive at h
  split at h
  · next hnone =>
    obtain ⟨rfl, rfl⟩ := Prod.mk.inj h
    exact ⟨rfl, rfl, rfl, fun _ => rfl⟩
  · next hsome =>
    obtain ⟨rfl, rfl⟩ := Prod.mk.inj h
    exact ⟨rfl, rfl, List.take_append_drop _ _, fun hnone => absurd hnone hsome⟩

theorem reading {l l' : Listener Unit} {line : List UInt8} (h : Reading l () w line l' w') :
    w'.calling = w.calling ∧ w'.responses = w.responses ∧
      l.buffer ++ w.requests = line ++ newline :: (l'.buffer ++ w'.requests) := by
  cases h with
  | @buffered line rest hline hl =>
    refine ⟨rfl, rfl, ?_⟩
    rw [hl, List.append_assoc, List.cons_append]
  | @completed chunk line rest w' hb hr hline hl =>
    obtain ⟨hcalling, hresponses, hin, _⟩ := received hr
    refine ⟨hcalling, hresponses, ?_⟩
    rw [← hin, ← List.append_assoc, ← List.cons_append, ← List.append_assoc, ← hl]
    rfl

theorem dropClient {l : Listener Unit} (hc : l.client = some ()) (w : Link) :
    Listener.dropping (Listener.dropClient l w) = (.ok none, l.alone, { w with closed := true }) := by
  have hclose : Sockets.close () w = (.ok (), { w with closed := true }) := rfl
  rw [Listener.dropClient_of_client hc hclose fun f hf => by contradiction]
  rfl

end Link

namespace Server

variable {s : Server Unit}

theorem send_link (hc : s.listener.client = some ()) (r : Response) (w : Link) :
    ∃ a, s.send r w = (a, { w with responses := w.responses ++ octets r }) := by
  unfold send octets
  cases r.encode with
  | error reason => exact ⟨_, by rw [Except.toOption, Option.getD_none, List.append_nil]⟩
  | ok data =>
    dsimp only
    unfold Listener.send
    rw [hc]
    exact ⟨_, rfl⟩

theorem answer_link (hc : s.listener.client = some ()) (c : Context L) (line : Text) (w : Link) :
    ∃ a, s.answer c line w = (a, (handleLine c line).2,
      { w with responses := w.responses ++ replied (handleLine c line).1 }) := by
  unfold answer
  rcases handleLine c line with ⟨e | _ | r, c'⟩
  · exact ⟨_, by rw [replied, List.append_nil]; simp⟩
  · exact ⟨_, by rw [replied, List.append_nil]; simp⟩
  · obtain ⟨a, hsend⟩ := send_link hc r w
    dsimp only
    rw [hsend]
    cases a with
    | error f => exact ⟨_, rfl⟩
    | ok b => exact ⟨_, rfl⟩

/-- The ways in which a server with a client can look for a line. -/
inductive Served (s : Server Unit) (c : Context L) (w : Link) :
    Server Unit → Context L → Link → Prop where
  | nothing {s' : Server Unit} {w' : Link} (hc : s'.listener.client = some ())
      (hin : s'.listener.buffer ++ w'.requests = s.listener.buffer ++ w.requests)
      (hout : w'.responses = w.responses) : Served s c w s' c w'
  | line {line : List UInt8} {s' : Server Unit} {w' : Link} (hline : newline ∉ line)
      (hc : s'.listener.client = some ())
      (hin : s.listener.buffer ++ w.requests =
        line ++ newline :: (s'.listener.buffer ++ w'.requests))
      (hout : w'.responses = w.responses ++ replied (handleLine c (lineText line)).1) :
      Served s c w s' (handleLine c (lineText line)).2 w'
  | dropped {s' : Server Unit} {w' : Link} (hc : s'.listener.client = none)
      (hin : w.requests ≠ []) (hout : w'.responses = w.responses) : Served s c w s' c w'

theorem serve_of_line {l : Listener Unit} {c c' : Context L} {line : Text} {w w' w'' : Link}
    {a : Except (Escape L) Unit} (h : s.listener.receiveLine w = (.ok (some line), l, w'))
    (hanswer : answer { s with listener := l } c line w' = (a, c', w'')) :
    s.serve c w = (a, { s with listener := l }, c', w'') := by
  simp only [serve, h, hanswer]

/-- A look for a line by a server with a client. -/
theorem served (hc : s.listener.client = some ()) (c : Context L) (w : Link) :
    ∃ a s' c' w', s.serve c w = (a, s', c', w') ∧ w'.calling = w.calling ∧
      Served s c w s' c' w' := by
  have hasking := Listener.asking hc w
  generalize hout : s.listener.receiveLine w = out at hasking
  cases hasking with
  | @line line l' w' hread =>
    obtain ⟨hcalling, hresponses, hin⟩ := Link.reading hread
    obtain ⟨hline, hl⟩ := hread.eq_with_buffer
    have hc' : l'.client = some () := by rw [hl, hc]
    obtain ⟨a, hanswer⟩ := answer_link (s := { s with listener := l' }) hc' c (lineText line) w'
    refine ⟨_, _, _, _, serve_of_line hout hanswer, hcalling, .line hline hc' hin ?_⟩
    rw [hresponses]
  | @kept chunk w' hb hr =>
    obtain ⟨hcalling, hresponses, hin, _⟩ := Link.received hr
    refine ⟨_, _, _, _, serve_of_none hout, hcalling, .nothing hc ?_ hresponses⟩
    rw [← hin, ← List.append_assoc]
    rfl
  | @quiet f w' hb hr =>
    obtain ⟨hcalling, hresponses, hin, _⟩ := Link.received hr
    have hnothing : Served s c w s c w' := .nothing hc (congrArg _ hin) hresponses
    cases hf : f.isA .systemError with
    | true =>
      rw [hf, if_pos rfl] at hout
      exact ⟨_, _, _, _, serve_of_none hout, hcalling, hnothing⟩
    | false =>
      rw [hf, if_neg Bool.false_ne_true] at hout
      have hserve : s.serve c w = (.error (.fault f), s, c, w') := by simp only [serve, hout]
      exact ⟨_, _, _, _, hserve, hcalling, hnothing⟩
  | @overlong chunk w' hb hr =>
    obtain ⟨hcalling, hresponses, hin, hnone⟩ := Link.received hr
    have hdropped := hout.trans (Link.dropClient hc w')
    refine ⟨_, _, _, _, serve_of_none hdropped, hcalling, .dropped rfl ?_ hresponses⟩
    intro h
    cases hnone h
  | @ended a w' hb hr hend =>
    obtain ⟨hcalling, hresponses, hin, hnone⟩ := Link.received hr
    have hdropped := hout.trans (Link.dropClient hc w')
    refine ⟨_, _, _, _, serve_of_none hdropped, hcalling, .dropped rfl ?_ hresponses⟩
    intro h
    rcases hend with rfl | ⟨f, rfl, hf⟩
    · cases hnone h
    · obtain rfl := Except.error.inj (hnone h)
      contradiction

theorem tick_of_client (hrun : s.running = true) (hc : s.listener.client = some ()) (c : Context L)
    (w : Link) : s.tick c w = s.serve c w := by
  rw [tick, if_pos hrun, welcome, Listener.acceptIfNone_of_client hc]

theorem served_tick (hc : s.listener.client = some ()) (c : Context L) (w : Link) :
    ∃ a s' c' w', s.tick c w = (a, s', c', w') ∧ w'.calling = w.calling ∧
      Served s c w s' c' w' := by
  cases hrun : s.running with
  | true =>
    rw [tick_of_client hrun hc]
    exact served hc c w
  | false => exact ⟨_, _, _, _, tick_of_not_running hrun c w, rfl, .nothing hc rfl rfl⟩

/-- A server whose client is gone has nobody to look for. -/
theorem tick_of_gone (hc : s.listener.client = none) {w : Link} (hcalling : w.calling = false)
    (c : Context L) : s.tick c w = (.ok (), s, c, w) := by
  have haccept : s.listener.acceptIfNone w = (.ok false, s.listener, w) := by
    cases hs : s.listener.server with
    | none => simp [Listener.acceptIfNone, hs]
    | some server =>
      have hnobody : Sockets.accept server w = (.error Schedule.tryAgain, w) := by
        change w.accept = _
        rw [Link.accept, hcalling, if_neg Bool.false_ne_true]
      rw [Listener.acceptIfNone_of_nobody hs hc hnobody]
      rfl
  cases hrun : s.running with
  | false => exact tick_of_not_running hrun c w
  | true =>
    rw [tick, if_pos hrun, welcome, haccept]
    exact serve_of_none (Listener.receiveLine_of_no_client hc w)

/-- A server that has accepted its caller. -/
def met (s : Server Unit) : Server Unit :=
  { s with listener := { s.listener with client := some (), buffer := [] } }

/-- A connection whose caller was accepted and greeted. -/
def greeting (banner : Datum) (w : Link) : Link :=
  { w with calling := false, responses := w.responses ++ octets (.connected banner) }

theorem welcome_of_calling {server : Unit} (hs : s.listener.server = some server)
    (hc : s.listener.client = none) {w : Link} (hcalling : w.calling = true) :
    ∃ a, s.welcome w = (a, s.met, greeting s.listener.settings.banner w) := by
  have hcaller : Sockets.accept server w =
      (.ok ((), ⟨"127.0.0.1", 0⟩), { w with calling := false }) := by
    change w.accept = _
    rw [Link.accept, if_pos hcalling]
  obtain ⟨a, hsend⟩ := send_link (s := s.met) rfl (.connected s.listener.settings.banner)
    { w with calling := false }
  change s.met.send (.connected s.met.listener.settings.banner)
    (Sockets.note (.clientConnected ⟨"127.0.0.1", 0⟩) { w with calling := false }) = _ at hsend
  rw [welcome, Listener.acceptIfNone_of_caller hs hc hcaller rfl]
  dsimp only [met] at hsend ⊢
  rw [hsend]
  cases a with
  | error f => exact ⟨_, rfl⟩
  | ok b => exact ⟨_, rfl⟩

/-- A caller is accepted and greeted, unless the server does not listen. -/
theorem tick_of_calling (hc : s.listener.client = none) {w : Link} (hcalling : w.calling = true)
    (c : Context L) : s.tick c w = (.ok (), s, c, w) ∨
    ∃ a s' c' w', s.tick c w = (a, s', c', w') ∧ w'.calling = false ∧
      Served s.met c (greeting s.listener.settings.banner w) s' c' w' := by
  cases hrun : s.running with
  | false => exact .inl (tick_of_not_running hrun c w)
  | true =>
    cases hs : s.listener.server with
    | none =>
      left
      have haccept : s.listener.acceptIfNone w = (.ok false, s.listener, w) := by
        simp [Listener.acceptIfNone, hs]
      rw [tick, if_pos hrun, welcome, haccept]
      exact serve_of_none (Listener.receiveLine_of_no_client hc w)
    | some server =>
      right
      obtain ⟨a, hwelcome⟩ := welcome_of_calling hs hc hcalling
      rw [tick, if_pos hrun, hwelcome]
      cases a with
      | error f => exact ⟨_, _, _, _, rfl, rfl, .nothing rfl rfl rfl⟩
      | ok u => exact served rfl c _

end Server

namespace Remote

theorem tick_of_server {x : Remote L} {portion : Nat} {a : Except (Server.Escape L) Unit}
    {s : Server Unit} {c : Context L} {w : Link}
    (h : x.server.tick x.context { x.link with portion := portion } = (a, s, c, w)) :
    x.tick portion = { x with server := s, context := c, link := w } := by
  simp only [tick, h]

/-- A wait takes octets off the responses, after some ticks. -/
theorem received (size : Nat) (x : Remote L) :
    ∃ later portions rest, let x' := { x with moments := later }.ticks portions
      (x.receive size).2 = { x' with link := { x'.link with responses := rest } } ∧
        (x.receive size).1.toOption.getD [] ++ rest = x'.link.responses := by
  unfold receive
  split
  · next hmoments => exact ⟨x.moments, [], x.link.responses, rfl, rfl⟩
  · next m later hmoments =>
    refine ⟨later, m.portions, ?_⟩
    generalize { x with moments := later }.ticks m.portions = x'
    unfold yield
    split
    · exact ⟨x'.link.responses, rfl, rfl⟩
    · next hnone =>
      refine ⟨[], by rw [← hnone], ?_⟩
      split
      · exact hnone.symm
      · exact hnone.symm
    · exact ⟨_, rfl, List.take_append_drop _ _⟩

end Remote

namespace Client

variable {W H : Type} [Sockets W H]

/-- What becomes of what holds of a buffer and a world, where it lets every complete line be a message
and is kept by receiving. Either the first line is taken, or it still holds of what is there. -/
theorem readMessage_keeps {h : H} {holds : List UInt8 → W → Prop}
    (hlegible : ∀ line rest w, newline ∉ line → holds (line ++ newline :: rest) w →
      ∃ d, ∀ room, message? room line = .ok (some d))
    (hreceive : ∀ b w, holds b w → holds
      (b ++ (Sockets.receive h chunkSize w).1.toOption.getD []) (Sockets.receive h chunkSize w).2)
    (rounds : Nat) {c : Client H} (hs : c.socket = some h) {w : W} (hw : holds c.buffer w) :
    (∃ line rest d w', readMessage rounds c w = (.message d, { c with buffer := rest }, w') ∧
      newline ∉ line ∧ (∀ room, message? room line = .ok (some d)) ∧ holds (line ++ newline :: rest) w') ∨
    ∃ ending b w', readMessage rounds c w = (ending, { c with buffer := b }, w') ∧
      (∀ d, ending ≠ .message d) ∧ holds b w' := by
  induction rounds generalizing c w with
  | zero => exact .inr ⟨.unfinished, c.buffer, w, rfl, by simp, hw⟩
  | succ more ih =>
    rcases splitLine?_cases c.buffer with ⟨_, hsplit⟩ | ⟨line, rest, hline, hbuffer, hsplit⟩
    · have hpop : c.popMessage = (.ok none, c) := by rw [popMessage, hsplit]
      have hmore := hreceive c.buffer w hw
      rcases hr : Sockets.receive h chunkSize w with ⟨f | _ | ⟨first, rest⟩, w'⟩
      · have hread : readMessage (more + 1) c w =
            (.failed (if f.isA .timeoutError then .timedOut c.timeout else .fault f), c, w') := by
          simp only [readMessage, hpop, hs, hr]
        rw [hr] at hmore
        refine .inr ⟨_, c.buffer, w', hread, by simp, ?_⟩
        simpa [Except.toOption] using hmore
      · have hread : readMessage (more + 1) c w = (.failed .closed, c, w') := by
          simp only [readMessage, hpop, hs, hr]
        rw [hr] at hmore
        refine .inr ⟨_, c.buffer, w', hread, by simp, ?_⟩
        simpa [Except.toOption] using hmore
      · rw [hr] at hmore
        have hread : readMessage (more + 1) c w =
            readMessage more { c with buffer := c.buffer ++ first :: rest } w' := by
          simp only [readMessage, hpop, hs, hr]
        rw [hread]
        exact ih (c := { c with buffer := c.buffer ++ first :: rest }) hs hmore
    · rw [hbuffer] at hw
      obtain ⟨d, hd⟩ := hlegible line rest w hline hw
      left
      exact ⟨line, rest, d, w, readMessage_of_message hsplit (hd c.room) more w, hline, hd, hw⟩

end Client

end LiveConsole.Net
