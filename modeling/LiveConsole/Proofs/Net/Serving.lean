import LiveConsole.Proofs.Net.Due
import LiveConsole.Proofs.Net.Lifetime

/-!
# Serving

A tick of a server in a scheduled network sends what is due next, or nothing, and leaves the rest of it
due. Every tick brings the end closer, until nothing is due any more.
-/

namespace LiveConsole.Net
set_option autoImplicit false

open Evaluator (evaluate evaluateAll)
open Request (asked asked?)

variable {L : Language}

namespace Server

/-- Ticks again and again, whatever becomes of a tick. -/
def ticks {W H : Type} [Sockets W H] : Nat → Server H → Context L → W → Server H × Context L × W
  | 0, s, c, w => (s, c, w)
  | n + 1, s, c, w =>
    match s.tick c w with
    | (_, s, c, w) => ticks n s c w

variable {settings : Settings} {banner : Text} {s : Server Nat} {c final : Context L}
variable {r : Recorded Schedule Nat} {todo : List (Nat × Response)} {h effort : Nat}
variable {stream : List UInt8}

theorem send_of_held (hl : Held s.listener r.world h stream effort) {x : Response}
    (hx : ∃ data, x.encode = .ok data) :
    ∃ b r', s.send x r = (.ok b, r') ∧ Held s.listener r'.world h stream effort ∧
      ∃ data, x.encode = .ok data ∧ Steady [(h, data)] r r' := by
  obtain ⟨data, hdata⟩ := hx
  obtain ⟨b, r', hsend, hl', hsteady⟩ := hl.send data
  refine ⟨b, r', ?_, hl', data, hdata, hsteady⟩
  rw [send, hdata]
  exact hsend

/-- A line is answered with what it asks for. -/
theorem answer_of_held (hl : Held s.listener r.world h stream effort) (c : Context L)
    (line : List UInt8) :
    ∃ a r' new, s.answer c (lineText line) r = (a, (evaluateAll c (asked? L.room line).toList).2, r') ∧
      Held s.listener r'.world h stream effort ∧ Steady new r r' ∧
      new.map handed = ((evaluateAll c (asked? L.room line).toList).1.map (h, ·)).map encoded ∧
      (evaluateAll c (asked? L.room line).toList).1.length ≤ 1 := by
  cases ha : asked? L.room line with
  | none =>
    obtain ⟨hc, hnone⟩ := Evaluator.handleLine_of_not_asked c ha
    rcases hline : Evaluator.handleLine c (lineText line) with ⟨e | _ | x, c'⟩
    · obtain rfl : c' = c := (congrArg Prod.snd hline).symm.trans hc
      have hanswer : s.answer c' (lineText line) r = (.error (.line e), c', r) := by
        rw [answer, hline]
      exact ⟨_, r, [], hanswer, hl, .refl r, rfl, Nat.zero_le _⟩
    · obtain rfl : c' = c := (congrArg Prod.snd hline).symm.trans hc
      have hanswer : s.answer c' (lineText line) r = (.ok (), c', r) := by
        rw [answer, hline]
      exact ⟨_, r, [], hanswer, hl, .refl r, rfl, Nat.zero_le _⟩
    · exact absurd (congrArg Prod.fst hline) (hnone x)
  | some e =>
    have hline := Evaluator.handleLine_of_asked c ha
    rcases he : evaluate c e with ⟨f | x, c'⟩
    · have hall : evaluateAll c [e] = ([], c') := by simp only [evaluateAll, he]
      rw [he] at hline
      have hanswer : s.answer c (lineText line) r = (.error (.line (.raised f)), c', r) := by
        rw [answer, hline]
        rfl
      rw [Option.toList_some, hall]
      exact ⟨_, r, [], hanswer, hl, .refl r, rfl, Nat.zero_le _⟩
    · have hall : evaluateAll c [e] = ([x], c') := by simp only [evaluateAll, he]
      have hencode := Evaluator.exists_encode_evaluate c e (congrArg Prod.fst he)
      obtain ⟨b, r', hsend, hl', data, hdata, hsteady⟩ := send_of_held hl hencode
      rw [he] at hline
      have hanswer : s.answer c (lineText line) r = (.ok (), c', r') := by
        have hreply : Evaluator.handleLine c (lineText line) = (.ok (some x), c') := hline
        simp only [answer, hreply, hsend]
      rw [Option.toList_some, hall]
      exact ⟨_, r', _, hanswer, hl', hsteady, by simp [handed, encoded, hdata], Nat.le_refl _⟩

section Serve
variable (hready : Ready settings s) (hl : Held s.listener r.world h stream effort)
variable (hfits : Fits settings stream)
variable (hcoming : ∀ v, Caller.visitor v ∈ r.world.awaited → Fits settings v.stream)
include hready hl hfits hcoming

theorem serve_of_held (c : Context L) :
    ∃ a s' c' r' now, s.serve c r = (a, s', c', r') ∧ now.length ≤ 1 ∧
      Advanced settings banner r (r.world.dueOn banner h stream c) now (r.world.finalOn stream c)
        (effort + r.world.effort) s' c' r' := by
  obtain ⟨a, l', r₁, hreceive, hfetched, hsteady, hsettings, hserver⟩ :=
    hl.receiveLine (hready.settings_eq ▸ hfits)
  have hready' : Ready settings { s with listener := l' } :=
    ⟨hready.running, hserver ▸ hready.bound, hsettings.trans hready.settings_eq⟩
  have hcoming' : ∀ v, Caller.visitor v ∈ r₁.world.awaited → Fits settings v.stream := by
    rw [hsteady.awaited_eq]
    exact hcoming
  have hsends : sends r₁.exchanges = sends r.exchanges :=
    hsteady.sends_eq.trans (List.append_nil _)
  rw [← hsteady.dueOn_eq, ← hsteady.finalOn_eq, ← hsteady.effort_eq]
  cases hfetched with
  | @line line more _ _ effort' hline hstream hl' hlt =>
    subst hstream
    obtain ⟨a, r', new, hanswer, hl'', hsteady', hnew, hlength⟩ :=
      answer_of_held (s := { s with listener := l' }) hl' c line
    have hserve : s.serve c r =
        (a, { s with listener := l' }, (evaluateAll c (asked? L.room line).toList).2, r') := by
      rw [serve, hreceive]
      simp only [hanswer]
    rw [Schedule.dueOn_line hline, Schedule.finalOn_line hline, ← hsteady'.dueOn_eq,
      ← hsteady'.finalOn_eq, ← hsteady'.effort_eq]
    refine ⟨_, _, _, _, _, hserve, ?_, ⟨_, _, rfl, .held hl'' (hfits.tail hline), ?_⟩, hready',
      ?_, ?_⟩
    · rw [List.length_map]
      exact hlength
    · omega
    · rw [hsteady'.awaited_eq]
      exact hcoming'
    · rw [hsteady'.sends_eq, List.map_append, hnew, hsends]
  | @nothing _ _ effort' hl' hlt =>
    have hserve : s.serve c r = (.ok (), { s with listener := l' }, c, r₁) := serve_of_none hreceive
    exact ⟨_, _, _, _, [], hserve, Nat.zero_le _,
      .silent (.held hl' hfits) hready' hcoming' hsends (by omega)⟩
  | gone hn hl' =>
    have hserve : s.serve c r = (.ok (), { s with listener := l' }, c, r₁) := serve_of_none hreceive
    rw [Schedule.dueOn_of_not_mem hn, Schedule.finalOn_of_not_mem hn]
    exact ⟨_, _, _, _, [], hserve, Nat.zero_le _,
      .silent (.vacant hl') hready' hcoming' hsends (by omega)⟩

end Serve

theorem serve_of_vacant (hl : Vacant s.listener r.world) (c : Context L) :
    s.serve c r = (.ok (), s, c, r) :=
  serve_of_none (Listener.receiveLine_of_no_client hl.client_eq r)

theorem welcome_of_held (hl : Held s.listener r.world h stream effort) :
    s.welcome r = (.ok (), s, r) := by
  rw [welcome, Listener.acceptIfNone_of_client hl.client_eq]

section Welcome
variable (hready : Ready settings s) (hbanner : settings.banner = .text banner)
variable (hl : Vacant s.listener r.world)
variable (hcoming : ∀ v, Caller.visitor v ∈ r.world.awaited → Fits settings v.stream)
include hready hbanner hl hcoming

theorem welcome_of_visitor {v : Visitor} {later : List Knock} {xs : List (Exchange Nat)}
    (hw : r.world.knocks = .caller (.visitor v) :: later)
    (haccept : s.listener.acceptIfNone r = (.ok true,
      { s.listener with client := some r.world.met.length, buffer := [] },
      ⟨⟨later, r.world.met ++ [.visitor v]⟩, xs⟩))
    (hsends : sends xs = sends r.exchanges) (c : Context L) :
    ∃ s' r', s.welcome r = (.ok (), s', r') ∧
      Advanced settings banner r (r.world.due banner c)
        [(r.world.met.length, .connected (.text banner))] (r.world.final c) (r.world.effort - 1)
        s' c r' := by
  obtain ⟨b, r', hsend, hl', data, hdata, hsteady⟩ := send_of_held
    (s := ⟨{ s.listener with client := some r.world.met.length, buffer := [] }, s.running⟩)
    (r := ⟨⟨later, r.world.met ++ [.visitor v]⟩, xs⟩) (hl.visitor v later)
    (Evaluator.exists_encode_connected banner)
  have hsame : s.listener.settings.banner = .text banner := by
    rw [hready.settings_eq, hbanner]
  have hwelcome : s.welcome r = (.ok (),
      ⟨{ s.listener with client := some r.world.met.length, buffer := [] }, s.running⟩, r') := by
    rw [welcome, haccept]
    simp only [hsame, hsend]
  have heffort : r.world.effort = v.effort + 2 + Schedule.effort ⟨later, _⟩ :=
    Schedule.effort_of_knock hw (r.world.met ++ [.visitor v])
  have hrest : r'.world.effort = Schedule.effort ⟨later, _⟩ := hsteady.effort_eq
  rw [Schedule.awaited_of_caller hw (r.world.met ++ [.visitor v])] at hcoming
  rw [Schedule.due_of_visitor hw, Schedule.final_of_visitor hw (r.world.met ++ [.visitor v]),
    ← hsteady.dueOn_eq, ← hsteady.finalOn_eq]
  refine ⟨_, r', hwelcome, ⟨_, _, rfl, .held hl' (hcoming v List.mem_cons_self), by omega⟩,
    ⟨hready.running, hready.bound, hready.settings_eq⟩, ?_, ?_⟩
  · rw [hsteady.awaited_eq]
    exact fun u hu => hcoming u (List.mem_cons_of_mem _ hu)
  · rw [hsteady.sends_eq, List.map_append, hsends]
    simp [handed, encoded, hdata]

/-- A look for callers brings those still to come closer, and greets the one that is taken. -/
theorem welcome_of_vacant (c : Context L) :
    ∃ a s' r' now, s.welcome r = (a, s', r') ∧
      (now = [] ∨ ∃ h, now = [(h, .connected (.text banner))]) ∧
      Advanced settings banner r (r.world.due banner c) now (r.world.final c)
        (r.world.effort - 1) s' c r' := by
  obtain ⟨server, hserver⟩ := hready.bound
  obtain ⟨a, l', ⟨w', xs⟩, haccept, hadmitted, hsends⟩ := hl.acceptIfNone hserver
  change Admitted _ _ _ _ w' at hadmitted
  cases hadmitted with
  | never hw =>
    have hwelcome : s.welcome r = (.ok (), s, ⟨r.world, xs⟩) := by
      rw [welcome, haccept]
    have heffort : r.world.effort = 0 := by simp [Schedule.effort, hw]
    have hle : r.world.effort ≤ r.world.effort - 1 := by omega
    exact ⟨_, _, _, [], hwelcome, .inl rfl, .silent (.vacant hl) hready hcoming hsends hle⟩
  | @nobody f later hw =>
    have hwelcome : s.welcome r = (.ok (), s, ⟨{ r.world with knocks := later }, xs⟩) := by
      rw [welcome, haccept]
    have heffort : r.world.effort = 1 + Schedule.effort ⟨later, r.world.met⟩ :=
      Schedule.effort_of_knock hw r.world.met
    have hle : Schedule.effort ⟨later, r.world.met⟩ ≤ r.world.effort - 1 := by omega
    rw [Schedule.awaited_of_nobody hw] at hcoming
    rw [Schedule.due_of_nobody hw, Schedule.final, Schedule.awaited_of_nobody hw]
    exact ⟨_, _, _, [], hwelcome, .inl rfl,
      .silent (.vacant ⟨hl.client_eq, hl.spent⟩) hready hcoming hsends hle⟩
  | @unusable f closing later hw =>
    obtain ⟨a, hwelcome⟩ : ∃ a, s.welcome r =
        (a, s, ⟨⟨later, r.world.met ++ [.unusable f closing]⟩, xs⟩) := by
      rw [welcome, haccept]
      rcases closing.val with e | u
      · exact ⟨_, rfl⟩
      · exact ⟨_, rfl⟩
    have heffort : r.world.effort =
        1 + Schedule.effort ⟨later, r.world.met ++ [.unusable f closing]⟩ :=
      Schedule.effort_of_knock hw _
    have hle : Schedule.effort ⟨later, r.world.met ++ [.unusable f closing]⟩ ≤
        r.world.effort - 1 := by omega
    rw [Schedule.awaited_of_caller hw (r.world.met ++ [.unusable f closing])] at hcoming
    rw [Schedule.due_of_unusable hw, Schedule.final_of_unusable hw]
    exact ⟨a, _, _, [], hwelcome, .inl rfl, .silent (.vacant (hl.unusable f closing)) hready
      (fun v hv => hcoming v (List.mem_cons_of_mem _ hv)) hsends hle⟩
  | @visitor v later hw =>
    obtain ⟨s', r', hwelcome, hadvanced⟩ :=
      welcome_of_visitor hready hbanner hl hcoming hw haccept hsends c
    exact ⟨_, s', r', _, hwelcome, .inr ⟨_, rfl⟩, hadvanced⟩

end Welcome

theorem serve_of_due (hready : Ready settings s)
    (hcoming : ∀ v, Caller.visitor v ∈ r.world.awaited → Fits settings v.stream)
    (hdue : Due settings banner s c r.world todo final effort) :
    ∃ a s' c' r' now, s.serve c r = (a, s', c', r') ∧ now.length ≤ 1 ∧
      Advanced settings banner r todo now final effort s' c' r' := by
  cases hdue with
  | vacant hl =>
    exact ⟨_, _, _, _, [], serve_of_vacant hl c, Nat.zero_le _,
      .silent (.vacant hl) hready hcoming rfl (Nat.le_refl _)⟩
  | held hl hfits =>
    obtain ⟨a, s', c', r', now, hserve, hlength, hadvanced⟩ :=
      serve_of_held hready hl hfits hcoming c
    exact ⟨a, s', c', r', now, hserve, hlength, hadvanced.mono (by omega)⟩

/-- A tick greets at most one caller, sends at most one response besides, and brings the end closer. -/
theorem tick_of_due (hready : Ready settings s) (hbanner : settings.banner = .text banner)
    (hcoming : ∀ v, Caller.visitor v ∈ r.world.awaited → Fits settings v.stream)
    (hdue : Due settings banner s c r.world todo final effort) :
    ∃ a s' c' r' greeting now, s.tick c r = (a, s', c', r') ∧
      (greeting = [] ∨ ∃ h, greeting = [(h, .connected (.text banner))]) ∧ now.length ≤ 1 ∧
      Advanced settings banner r todo (greeting ++ now) final (effort - 1) s' c' r' := by
  unfold tick
  rw [if_pos hready.running]
  cases hdue with
  | held hl hfits =>
    obtain ⟨a, s', c', r', now, hserve, hlength, hadvanced⟩ :=
      serve_of_held hready hl hfits hcoming c
    rw [welcome_of_held hl]
    exact ⟨a, s', c', r', [], now, hserve, .inl rfl, hlength, hadvanced.mono (by omega)⟩
  | vacant hl =>
    obtain ⟨a, s₁, r₁, greeting, hwelcome, hgreeting, hadvanced⟩ :=
      welcome_of_vacant hready hbanner hl hcoming c
    rw [hwelcome]
    cases a with
    | error f =>
      refine ⟨_, s₁, c, r₁, greeting, [], rfl, hgreeting, Nat.zero_le _, ?_⟩
      rw [List.append_nil]
      exact hadvanced
    | ok u =>
      obtain ⟨later, effort', htodo, hdue', hle⟩ := hadvanced.due
      obtain ⟨a, s', c', r', now, hserve, hlength, hserved⟩ :=
        serve_of_due hadvanced.ready hadvanced.fits hdue'
      refine ⟨a, s', c', r', greeting, now, hserve, hgreeting, hlength, ?_⟩
      exact htodo ▸ hserved.after hadvanced.sends_eq |>.mono hle

theorem ticks_of_due (n : Nat) (hready : Ready settings s)
    (hbanner : settings.banner = .text banner)
    (hcoming : ∀ v, Caller.visitor v ∈ r.world.awaited → Fits settings v.stream)
    (hdue : Due settings banner s c r.world todo final effort) :
    ∃ s' c' r' now, s.ticks n c r = (s', c', r') ∧
      Advanced settings banner r todo now final (effort - n) s' c' r' := by
  induction n generalizing s c r todo effort with
  | zero =>
    exact ⟨s, c, r, [], rfl, .silent hdue hready hcoming rfl (Nat.le_refl _)⟩
  | succ n ih =>
    obtain ⟨a, s₁, c₁, r₁, greeting, now, htick, _, _, hfirst⟩ :=
      tick_of_due hready hbanner hcoming hdue
    obtain ⟨later, effort', htodo, hdue', hle⟩ := hfirst.due
    obtain ⟨s', c', r', now', hticks, hrest⟩ := ih hfirst.ready hfirst.fits hdue'
    refine ⟨s', c', r', greeting ++ now ++ now', ?_, ?_⟩
    · rw [ticks, htick]
      exact hticks
    · exact htodo ▸ (hrest.after hfirst.sends_eq).mono (by omega)

end Server

end LiveConsole.Net
