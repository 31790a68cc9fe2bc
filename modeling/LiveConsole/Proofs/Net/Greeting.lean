import LiveConsole.Proofs.Net.Underway

/-!
# Reading the greeting

A client that has connected is greeted before anything else. When it has read the greeting, nothing is on
its way in either direction.
-/

namespace LiveConsole.Net
set_option autoImplicit false

variable {L : Language} {c : Context L}

/-- What a client that has connected and not yet been greeted can find. -/
inductive Expecting (b : List UInt8) (x : Remote L) : Prop where
  | caller (hclient : x.server.listener.client = none) (hcalling : x.link.calling = true)
      (hin : x.link.requests = []) (hout : b ++ x.link.responses = []) : Expecting b x
  | met (banner : Datum) (hclient : x.server.listener.client = some ())
      (hcalling : x.link.calling = false)
      (hin : x.server.listener.buffer ++ x.link.requests = [])
      (hout : b ++ x.link.responses = octets (.connected banner)) : Expecting b x

/-- A server that was asked for nothing does nothing. -/
theorem Server.Served.unasked {s s' : Server Unit} {c c' : Context L} {w w' : Link}
    (h : s.Served c w s' c' w') (hin : s.listener.buffer ++ w.requests = []) :
    s'.listener.client = some () ∧ s'.listener.buffer ++ w'.requests = [] ∧
      w'.responses = w.responses := by
  cases h with
  | nothing hc hin' hout => exact ⟨hc, hin'.trans hin, hout⟩
  | line hline hc hin' hout =>
    rw [hin] at hin'
    exact absurd hin' (by simp)
  | dropped hc hne hout => exact absurd (List.append_eq_nil_iff.mp hin).2 hne

namespace Expecting

variable {b : List UInt8} {x : Remote L}

theorem tick (portion : Nat) (h : Expecting b x) : Expecting b (x.tick portion) := by
  cases h with
  | caller hclient hcalling hin hout =>
    rcases Server.tick_of_calling (w := { x.link with portion := portion }) hclient hcalling
      x.context with htick | ⟨a, s', c', w', htick, hcalling', hserved⟩
    · rw [Remote.tick_of_server htick]
      exact .caller hclient hcalling hin hout
    · obtain ⟨hclient', hin', hout'⟩ := hserved.unasked hin
      rw [Remote.tick_of_server htick]
      refine .met x.server.listener.settings.banner hclient' hcalling' hin' ?_
      rw [hout', Server.greeting, ← List.append_assoc, hout, List.nil_append]
  | met banner hclient hcalling hin hout =>
    obtain ⟨a, s', c', w', htick, hcalling', hserved⟩ :=
      Server.served_tick hclient x.context { x.link with portion := portion }
    obtain ⟨hclient', hin', hout'⟩ := hserved.unasked hin
    rw [Remote.tick_of_server htick]
    refine .met banner hclient' (hcalling'.trans hcalling) hin' ?_
    rw [← hout]
    exact congrArg (b ++ ·) hout'

theorem carried : Carried (L := L) Expecting where
  tick portion _ _ h := h.tick portion
  wait moments _ _ h := by
    cases h with
    | caller hclient hcalling hin hout => exact .caller hclient hcalling hin hout
    | met banner hclient hcalling hin hout => exact .met banner hclient hcalling hin hout
  arrive chunk rest b x h hrest := by
    cases h with
    | caller hclient hcalling hin hout =>
      refine .caller hclient hcalling hin ?_
      rw [List.append_assoc, ← hout, ← hrest]
    | met banner hclient hcalling hin hout =>
      refine .met banner hclient hcalling hin ?_
      rw [List.append_assoc, ← hout, ← hrest]

/-- Only the greeting is there to be read. -/
theorem take {line rest : List UInt8} (hline : newline ∉ line)
    (h : Expecting (line ++ newline :: rest) x) :
    ∃ banner d, (Response.connected banner).Tells d ∧
      (∀ room, Client.message? room line = .ok (some d)) ∧
      x.server.listener.client = some () ∧ x.link.calling = false ∧
      x.server.listener.buffer ++ x.link.requests = [] ∧ rest ++ x.link.responses = [] := by
  cases h with
  | caller hclient hcalling hin hout => exact absurd hout (by simp)
  | met banner hclient hcalling hin hout =>
    cases hencode : (Response.connected banner).encode with
    | error reason =>
      rw [octets, hencode, Except.toOption, Option.getD_none] at hout
      exact absurd hout (by simp)
    | ok data =>
      obtain ⟨d, htells⟩ := Response.exists_tells hencode
      obtain ⟨line', hline', hoctets, hmessage⟩ := exists_line_of_tells htells
      rw [hoctets, List.append_assoc] at hout
      obtain ⟨rfl, hrest⟩ := line_inj hline hline' hout
      exact ⟨banner, d, htells, hmessage, hclient, hcalling, hin, hrest⟩

end Expecting

namespace Dialogue

variable {x : Dialogue L}

/-- A client that has connected and has read no message yet, whatever else has gone by. -/
inductive Awaiting : Dialogue L → Prop where
  | connected {x : Dialogue L} (h : x.remote.server.listener.client = none) : Awaiting x.connect
  | tick {x : Dialogue L} (portion : Nat) (h : Awaiting x) : Awaiting (x.tick portion)
  | read {x : Dialogue L} (moments : List Moment) (h : Awaiting x)
      (hnone : ∀ d, (x.read moments).1 ≠ .message d) : Awaiting (x.read moments).2

/-- The first message has been read. -/
def Greeted (x : Dialogue L) : Prop :=
  ∃ y moments d, Awaiting y ∧ y.read moments = (.message d, x)

/-- Nothing is on its way, and nothing that has arrived is left. -/
structure Quiet (x : Dialogue L) : Prop where
  connected : x.client.socket = some ()
  held : x.remote.server.listener.client = some ()
  accepted : x.remote.link.calling = false
  unasked : x.remote.server.listener.buffer ++ x.remote.link.requests = []
  unread : x.client.buffer ++ x.remote.link.responses = []

theorem expecting_read (moments : List Moment) (hs : x.client.socket = some ())
    (h : Expecting x.client.buffer x.remote) :
    (∃ banner d, (x.read moments).1 = .message d ∧ (Response.connected banner).Tells d ∧
      (x.read moments).2.Quiet) ∨
    (∀ d, (x.read moments).1 ≠ .message d) ∧ (x.read moments).2.client.socket = some () ∧
      Expecting (x.read moments).2.client.buffer (x.read moments).2.remote := by
  have hlegible (line rest : List UInt8) (y : Remote L) (hline : newline ∉ line)
      (hy : Expecting (line ++ newline :: rest) y) :
      ∃ d, ∀ room, Client.message? room line = .ok (some d) := by
    obtain ⟨_, d, _, hd, _⟩ := hy.take hline
    exact ⟨d, hd⟩
  rcases Expecting.carried.read hlegible (moments.length + 1) hs
      (Expecting.carried.wait moments h) with
    ⟨line, rest, d, y, hread, hline, hd, hy⟩ | ⟨ending, b, y, hread, hnone, hy⟩
  · obtain ⟨banner, d', htells, hd', hheld, haccepted, hunasked, hunread⟩ := hy.take hline
    obtain rfl : d = d' := Option.some.inj (Except.ok.inj ((hd 0).symm.trans (hd' 0)))
    have hx : x.read moments = (.message d, ⟨{ x.client with buffer := rest }, y⟩) := by
      simp only [Dialogue.read, lasting, hread]
    rw [hx]
    exact .inl ⟨banner, d, rfl, htells, hs, hheld, haccepted, hunasked, hunread⟩
  · have hx : x.read moments = (ending, ⟨{ x.client with buffer := b }, y⟩) := by
      simp only [Dialogue.read, lasting, hread]
    rw [hx]
    exact .inr ⟨hnone, hs, hy⟩

theorem Awaiting.expecting (h : x.Awaiting) :
    x.client.socket = some () ∧ Expecting x.client.buffer x.remote := by
  induction h with
  | connected hclient => exact ⟨rfl, .caller hclient rfl rfl rfl⟩
  | tick portion _ ih => exact ⟨ih.1, ih.2.tick portion⟩
  | read moments _ hnone ih =>
    rcases expecting_read moments ih.1 ih.2 with ⟨_, d, hd, _⟩ | ⟨_, hnext⟩
    · exact absurd hd (hnone d)
    · exact hnext

/-- The first message is the greeting, and there is nothing behind it. -/
theorem Greeted.quiet (h : x.Greeted) : x.Quiet := by
  obtain ⟨y, moments, d, hawaiting, hread⟩ := h
  obtain ⟨hs, hexpecting⟩ := hawaiting.expecting
  rcases expecting_read moments hs hexpecting with ⟨_, _, _, _, hquiet⟩ | ⟨hnone, _⟩
  · rwa [hread] at hquiet
  · exact absurd (congrArg Prod.fst hread) (hnone d)

theorem Quiet.underway (h : x.Quiet) :
    Underway x.remote.context [] 0 x.client.buffer x.remote :=
  ⟨[], [], rfl, ⟨h.accepted, .inr ⟨h.held, rfl, h.unasked⟩⟩, Nat.zero_le _, h.unread⟩

end Dialogue

end LiveConsole.Net
