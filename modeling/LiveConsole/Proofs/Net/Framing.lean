import LiveConsole.Proofs.Net.Schedule
import LiveConsole.Proofs.Net.Visits

/-!
# Framing

Each call for a line gives the next piece that the octets of the one connection held contain, and reads
more only if there is none. What a single turn does to the pieces of a connection carries over to runs
of any length and over any number of connections.
-/

namespace LiveConsole.Net
set_option autoImplicit false

variable {W H : Type}

section Step
variable {s : Settings} {v : Visit H} {vs : List (Visit H)}

theorem Heard.standing {l l' : Listener H} {t : Turn H} (ht : Heard l v.socket t l')
    (hs : l.settings = s) (hc : l.client = some v.socket) (hv : v.Present s l.buffer)
    (hvs : ∀ u ∈ vs, u.Past s) : Standing s l'.client l'.buffer (t.watch (v :: vs)) := by
  subst hs
  cases ht with
  | @buffered line more hline hl =>
    obtain ⟨given, kept, rest, hcut, rfl, hshort⟩ := hv.cut_of_line hline hl
    rw [Turn.watch_line hv.not_left]
    change Standing _ l.client _ _
    rw [hc]
    exact .held (v := v.heard [] _) ⟨⟨_, _, _, hcut.give, rfl, hshort⟩, hv.not_ended, hv.not_left⟩ hvs
  | @completed chunk line more hchunk hb hsize hline hl =>
    obtain ⟨given, hcut, hshort⟩ := hv.cut_of_not_mem hb
    obtain ⟨kept, rest, rfl, hrest, hmore⟩ := hcut.complete hshort hsize hline hl
    rw [Turn.watch_line hv.not_left, Visit.heard_received hchunk]
    change Standing _ l.client _ _
    rw [hc]
    exact .held (v := { v with received := v.received ++ chunk, lines := _ })
      ⟨⟨_, kept, rest, hmore.give, rfl, hrest⟩, hv.not_ended, hv.not_left⟩ hvs
  | @kept chunk hchunk hn hle =>
    obtain ⟨given, hcut, _⟩ := hv.cut_of_not_mem fun h => hn (List.mem_append_left _ h)
    rw [Turn.watch_line hv.not_left, Visit.heard_received hchunk]
    change Standing _ l.client (l.buffer ++ chunk) _
    rw [hc, Option.toList_none, List.append_nil]
    exact .held (v := { v with received := v.received ++ chunk })
      ⟨⟨given, [], l.buffer ++ chunk, hcut.grow hn, rfl, hle⟩, hv.not_ended, hv.not_left⟩ hvs
  | quiet hb hf =>
    rw [Turn.watch_line hv.not_left, Visit.heard_quiet hf, hc]
    exact .held hv hvs
  | @overlong chunk a hchunk hn hlt =>
    obtain ⟨given, hcut, _⟩ := hv.cut_of_not_mem fun h => hn (List.mem_append_left _ h)
    rw [Turn.watch_line hv.not_left, Visit.heard_overlong hchunk]
    refine .free (List.forall_mem_cons.mpr ⟨⟨⟨given, l.buffer ++ chunk, ?_, .inr hlt⟩, rfl⟩, hvs⟩)
    have hgrown := hcut.grow hn
    exact ⟨hgrown.whole, hgrown.short, hgrown.rest_open, hgrown.received_eq, hgrown.lines_eq⟩
  | ended hb hend =>
    obtain ⟨given, hcut, _⟩ := hv.cut_of_not_mem hb
    rw [Turn.watch_line hv.not_left, Visit.heard_ended hend]
    refine .free (List.forall_mem_cons.mpr ⟨⟨⟨given, l.buffer, ?_, .inl rfl⟩, rfl⟩, hvs⟩)
    exact ⟨hcut.whole, hcut.short, hcut.rest_open, hcut.received_eq, hcut.lines_eq⟩

theorem Heard.exact {l l' : Listener H} {t : Turn H} (ht : Heard l v.socket t l')
    (hs : l.settings = s) (server : H) (hv : v.Present s l.buffer) :
    t.Exact s server (v :: vs) := by
  subst hs
  unfold Turn.Exact
  rw [held?_cons hv.not_left]
  cases ht with
  | @buffered line more hline hl =>
    obtain ⟨given, kept, rest, hcut, _, _⟩ := hv.cut_of_line hline hl
    refine ⟨congrArg Except.ok hcut.getElem?_lines.symm, ?_⟩
    rw [if_pos (hcut.length_lt_iff.mpr (List.cons_ne_nil _ _))]
  | @completed chunk line more hchunk hb hsize hline hl =>
    obtain ⟨given, hcut, hshort⟩ := hv.cut_of_not_mem hb
    obtain ⟨kept, rest, _, _, hmore⟩ := hcut.complete hshort hsize hline hl
    change _ ∧ ite _ _ _
    rw [if_neg hcut.not_length_lt, Visit.heard_received hchunk]
    exact ⟨congrArg Except.ok hmore.getElem?_lines.symm, _, [], rfl, .inl rfl⟩
  | @kept chunk hchunk hn hle =>
    obtain ⟨given, hcut, _⟩ := hv.cut_of_not_mem fun h => hn (List.mem_append_left _ h)
    change _ ∧ ite _ _ _
    rw [if_neg hcut.not_length_lt, Visit.heard_received hchunk]
    exact ⟨congrArg Except.ok (hcut.grow hn).getElem?_lines.symm, _, [], rfl, .inl rfl⟩
  | quiet hb hf =>
    obtain ⟨given, hcut, _⟩ := hv.cut_of_not_mem hb
    change _ ∧ ite _ _ _
    rw [if_neg hcut.not_length_lt, Visit.heard_quiet hf]
    exact ⟨congrArg Except.ok hcut.getElem?_lines.symm, _, [], rfl, .inl rfl⟩
  | @overlong chunk a hchunk hn hlt =>
    obtain ⟨given, hcut, _⟩ := hv.cut_of_not_mem fun h => hn (List.mem_append_left _ h)
    change _ ∧ ite _ _ _
    rw [if_neg hcut.not_length_lt, Visit.heard_overlong hchunk]
    exact ⟨congrArg Except.ok (hcut.grow hn).getElem?_lines.symm, _, _, rfl, .inr ⟨a, rfl⟩⟩
  | @ended r a hb hend =>
    obtain ⟨given, hcut, _⟩ := hv.cut_of_not_mem hb
    change _ ∧ ite _ _ _
    rw [if_neg hcut.not_length_lt, Visit.heard_ended hend]
    exact ⟨congrArg Except.ok hcut.getElem?_lines.symm, _, _, rfl, .inr ⟨a, rfl⟩⟩

end Step

/-- A bound listener, with what is known of its connections. -/
structure Framed (s : Settings) (server : H) (l : Listener H) (vs : List (Visit H)) : Prop where
  settings_eq : l.settings = s
  server_eq : l.server = some server
  standing : Standing s l.client l.buffer vs

theorem Heard.settings_eq {l l' : Listener H} {h : H} {t : Turn H} (ht : Heard l h t l') :
    l'.settings = l.settings ∧ l'.server = l.server := by
  cases ht <;> exact ⟨rfl, rfl⟩

theorem Met.framed {s : Settings} {server : H} {l : Listener H} {vs : List (Visit H)} {t : Turn H}
    {h? : Option H} (ht : Met server t h?) (hs : l.settings = s) (hserver : l.server = some server)
    (hc : l.client = none) (hvs : ∀ v ∈ vs, v.Past s) :
    Framed s server (l.meet h?) (t.watch vs) := by
  have hfree : Framed s server l vs := by
    refine ⟨hs, hserver, ?_⟩
    rw [hc]
    exact .free hvs
  cases ht with
  | nobody => exact hfree
  | @caller h e =>
    refine ⟨hs, hserver, .held (v := .begun h) ⟨⟨[], [], [], ?_, rfl, Nat.zero_le _⟩, rfl, rfl⟩ hvs⟩
    exact ⟨by simp, by simp, List.not_mem_nil, rfl, rfl⟩
  | @unusable h e f a =>
    cases a with
    | ok u => exact hfree
    | error f => exact hfree

theorem Met.exact {s : Settings} {server : H} {vs : List (Visit H)} {t : Turn H} {h? : Option H}
    (ht : Met server t h?) (hvs : ∀ v ∈ vs, v.Past s) : t.Exact s server vs := by
  unfold Turn.Exact
  rw [held?_of_past hvs]
  cases ht with
  | nobody => exact ⟨_, .nobody⟩
  | caller => exact ⟨_, .caller⟩
  | unusable => exact ⟨_, .unusable⟩

section Run
variable [Sockets W H] {s : Settings} {server : H} {l : Listener H} {vs : List (Visit H)}

open Listener (turn play)

theorem Framed.step (hl : Framed s server l vs) (m : Move) (w : W)
    (ho : ∀ x ∈ (turn m l w).1.exchanges, x.Ordinary) :
    (turn m l w).1.Exact s server vs ∧
      Framed s server (turn m l w).2.1 ((turn m l w).1.watch vs) := by
  obtain ⟨hs, hserver, hstanding⟩ := hl
  generalize hc : l.client = client? at hstanding
  generalize hb : l.buffer = buffer at hstanding
  cases hstanding with
  | free hvs =>
    cases m with
    | accept =>
      obtain ⟨h?, ht, hl'⟩ := Listener.turn_accept_of_none hserver hc ho
      rw [hl']
      exact ⟨ht.exact hvs, ht.framed hs hserver hc hvs⟩
    | receive =>
      rw [Listener.turn_receive_of_none hc, Turn.watch_line_of_past hvs]
      refine ⟨?_, hs, hserver, hc ▸ .free hvs⟩
      unfold Turn.Exact
      rw [held?_of_past hvs]
      exact ⟨rfl, rfl⟩
  | @held _ v past hv hvs =>
    subst hb
    cases m with
    | accept =>
      rw [Listener.turn_accept_of_client hc]
      refine ⟨?_, hs, hserver, hc ▸ .held hv hvs⟩
      unfold Turn.Exact
      rw [held?_cons hv.not_left]
      exact ⟨rfl, rfl⟩
    | receive =>
      have ht := Listener.turn_receive_of_client hc ho
      obtain ⟨hsettings, hsame⟩ := ht.settings_eq
      exact ⟨ht.exact hs server hv, hsettings.trans hs, hsame.trans hserver,
        ht.standing hs hc hv hvs⟩

/-- Turn by turn, a run is what it has to be. -/
theorem Framed.run (moves : List Move) (w : W) (hl : Framed s server l vs)
    (ho : ∀ t ∈ (play moves l w).1, ∀ x ∈ t.exchanges, x.Ordinary) :
    (∀ before t later, (play moves l w).1 = before ++ t :: later →
      t.Exact s server (before.foldl (fun vs t => t.watch vs) vs)) ∧
    Framed s server (play moves l w).2.1
      ((play moves l w).1.foldl (fun vs t => t.watch vs) vs) := by
  induction moves generalizing l w vs with
  | nil =>
    refine ⟨?_, hl⟩
    intro before t later h
    simp [Listener.play] at h
  | cons m more ih =>
    obtain ⟨hexact, hnext⟩ := hl.step m w (ho _ List.mem_cons_self)
    obtain ⟨hlater, hend⟩ := ih _ hnext fun u hu => ho u (List.mem_cons_of_mem _ hu)
    refine ⟨?_, hend⟩
    intro before u later h
    cases before with
    | nil =>
      obtain ⟨rfl, _⟩ := List.cons.inj h
      exact hexact
    | cons b before =>
      obtain ⟨rfl, htail⟩ := List.cons.inj h
      exact hlater before u later htail

theorem Framed.faithful (hl : Framed s server l vs) : ∀ v ∈ vs, v.Faithful s := by
  obtain ⟨_, _, hstanding⟩ := hl
  generalize l.client = client? at hstanding
  cases hstanding with
  | free hvs => exact fun v hv => (hvs v hv).faithful
  | held hv hvs => exact List.forall_mem_cons.mpr ⟨hv.faithful, fun u hu => (hvs u hu).faithful⟩

theorem Framed.left_of_mem_tail (hl : Framed s server l vs) : ∀ v ∈ vs.tail, v.left = true := by
  obtain ⟨_, _, hstanding⟩ := hl
  generalize l.client = client? at hstanding
  cases hstanding with
  | free hvs => exact fun v hv => (hvs v (List.mem_of_mem_tail hv)).left
  | held hv hvs => exact fun u hu => (hvs u hu).left

theorem Framed.client_eq (hl : Framed s server l vs) :
    l.client = (held? vs).map Visit.socket := by
  obtain ⟨_, _, hstanding⟩ := hl
  generalize l.client = client? at hstanding
  cases hstanding with
  | free hvs => rw [held?_of_past hvs, Option.map_none]
  | held hv hvs => rw [held?_cons hv.not_left, Option.map_some]

end Run

/-- A connection whose pieces are short enough is left at its end only. -/
theorem Visit.Faithful.left_iff_ended {s : Settings} {v : Visit H} (hv : v.Faithful s)
    {stream : List UInt8} (hstream : v.received <+: stream)
    (hfits : ∀ p ∈ stream.splitOn newline, p.length ≤ s.maxLine) :
    v.left = true ↔ v.ended = true := by
  obtain ⟨more, rfl⟩ := hstream
  obtain ⟨p, hp, hprefix⟩ := exists_remainder_prefix v.received more
  have hle := Nat.le_trans hprefix.length_le (hfits p hp)
  rw [hv.left_iff]
  exact or_iff_left (Nat.not_lt.mpr hle)

theorem Listener.play_exact [Sockets W H] (moves : List Move) (l : Listener H) (w : W)
    (server : H) (hs : l.server = some server) (hc : l.client = none)
    (ho : ∀ t ∈ (play moves l w).1, ∀ x ∈ t.exchanges, x.Ordinary) :
    (∀ v ∈ visits (play moves l w).1, v.Faithful l.settings ∧
      ∀ stream, v.received <+: stream →
        (∀ p ∈ stream.splitOn newline, p.length ≤ l.settings.maxLine) →
        (v.left = true ↔ v.ended = true)) ∧
    (∀ v ∈ (visits (play moves l w).1).tail, v.left = true) ∧
    (play moves l w).2.1.client = (held? (visits (play moves l w).1)).map Visit.socket ∧
    ((play moves l w).1.map Turn.answer, (play moves l w).2) = calls moves l w ∧
    ∀ before t later, (play moves l w).1 = before ++ t :: later →
      t.Exact l.settings server (visits before) := by
  have hstart : Framed l.settings server l [] := ⟨rfl, hs, hc ▸ .free (by simp)⟩
  obtain ⟨hexact, hend⟩ := hstart.run moves w ho
  refine ⟨?_, hend.left_of_mem_tail, hend.client_eq, map_answer_play l moves w, hexact⟩
  intro v hv
  have hfaithful := hend.faithful v hv
  exact ⟨hfaithful, fun stream hstream hfits => hfaithful.left_iff_ended hstream hfits⟩

namespace Schedule

open Arrival (portion)

/-- Lines of at most six octets, which are read four at a time. -/
def narrow : Settings :=
  ⟨.text "localhost", Settings.initial.port, .whole 0, .text "ready", 5, 4, 6, by decide,
    by decide⟩

/-- The first visitor ends its second line after a pause and leaves a third one unfinished; the line of
the second visitor is too long. -/
def fragments : Schedule :=
  ⟨[nobody,
    .caller (.visitor ⟨portion "a\nbc" ++ pause :: portion "\r\nde", ⟨.ok [], ends_nil⟩, [],
      .refused⟩),
    .caller (.visitor ⟨portion "f\ngh" ++ portion "ijkl" ++ portion "mnop", ⟨.ok [], ends_nil⟩, [],
      .done⟩)], []⟩

def fragmentMoves : List Move :=
  [.receive, .accept, .accept, .receive, .accept, .receive, .receive, .receive, .receive, .accept,
    .receive, .receive, .receive, .receive]

def waiting : Listener Nat := ⟨narrow, some 0, none, []⟩

theorem ordinary_fragments :
    ∀ t ∈ (waiting.play fragmentMoves fragments).1, ∀ x ∈ t.exchanges, x.Ordinary := by
  decide +kernel

theorem fragments_framed :
    (∀ t ∈ (waiting.play fragmentMoves fragments).1, ∀ x ∈ t.exchanges, x.Ordinary) ∧
    (∀ v ∈ visits (waiting.play fragmentMoves fragments).1, v.Faithful narrow ∧
      ∀ stream, v.received <+: stream →
        (∀ p ∈ stream.splitOn newline, p.length ≤ narrow.maxLine) →
        (v.left = true ↔ v.ended = true)) ∧
    ∀ before t later, (waiting.play fragmentMoves fragments).1 = before ++ t :: later →
      t.Exact narrow 0 (visits before) := by
  obtain ⟨hvisits, _, _, _, hturns⟩ :=
    Listener.play_exact fragmentMoves waiting fragments 0 rfl rfl ordinary_fragments
  exact ⟨ordinary_fragments, hvisits, hturns⟩

end Schedule

end LiveConsole.Net
