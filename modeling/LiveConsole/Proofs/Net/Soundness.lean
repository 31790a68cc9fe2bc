import LiveConsole.Console.Scripts
import LiveConsole.Proofs.Net.Additions
import LiveConsole.Proofs.Net.Framing

/-!
# What always holds of a server

A server that is new, and then started, ticked and stopped in any order, runs exactly while its
listener is bound. It holds a client only while it is bound, it keeps octets only of a client that it
holds, and never more of them than a line may have. It looks for a client only when it has none.
-/

namespace LiveConsole.Net
set_option autoImplicit false

variable {W H : Type} [Sockets W H] {L : Language}

namespace Listener

/-- What holds of a listener between calls. -/
structure Sound (settings : Settings) (l : Listener H) : Prop where
  settings_eq : l.settings = settings
  bound : l.hasClient = true → l.isBound = true
  empty : l.client = none → l.buffer = []
  short : l.buffer.length ≤ settings.maxLine

namespace Sound

variable {settings : Settings} {l : Listener H}

theorem new (settings : Settings) : Sound settings (new settings : Listener H) where
  settings_eq := rfl
  bound h := by contradiction
  empty _ := rfl
  short := Nat.zero_le _

theorem free (hl : Sound settings l) (server : Option H) :
    Sound settings { l.alone with server := server } where
  settings_eq := hl.settings_eq
  bound h := by contradiction
  empty _ := rfl
  short := Nat.zero_le _

theorem alone (hl : Sound settings l) : Sound settings l.alone := hl.free l.server

theorem buffered (hl : Sound settings l) {h : H} (hc : l.client = some h) {buffer : List UInt8}
    (hshort : buffer.length ≤ settings.maxLine) : Sound settings { l with buffer := buffer } where
  settings_eq := hl.settings_eq
  bound := hl.bound
  empty hnone := by
    rw [hc] at hnone
    contradiction
  short := hshort

theorem attached (hl : Sound settings l) (server : H) :
    Sound settings { l with server := some server } where
  settings_eq := hl.settings_eq
  bound _ := rfl
  empty := hl.empty
  short := hl.short

theorem acceptIfNone (hl : Sound settings l) (w : W) :
    Sound settings (Listener.acceptIfNone l w).2.1 := by
  rcases acceptIfNone_kept l w with hsame | ⟨hbound, h, hheld⟩
  · rw [hsame]
    exact hl
  · rw [hheld]
    exact ⟨hl.settings_eq, fun _ => hbound, fun h => by contradiction, Nat.zero_le _⟩

/-- Asking for a line never leaves more in the buffer than a line may have: what follows a line was
received together with its end. -/
theorem heard {l' : Listener H} {h : H} {t : Turn H} (hl : Sound settings l)
    (hc : l.client = some h) (ht : Heard l h t l') : Sound settings l' := by
  have hsettings := hl.settings_eq
  have hshort := hl.short
  cases ht with
  | @buffered line rest hline heq =>
    apply hl.buffered hc
    rw [heq, List.length_append, List.length_cons] at hshort
    omega
  | @completed chunk line rest hchunk hb hsize hline heq =>
    apply hl.buffered hc
    have hbefore := length_le_of_append_eq hb heq
    have hlengths := congrArg List.length heq
    have hrecv := l.settings.recvSize_le_maxLine
    rw [List.length_append, List.length_append, List.length_cons] at hlengths
    rw [hsettings] at hsize hrecv
    omega
  | @kept chunk hchunk hn hle =>
    apply hl.buffered hc
    rwa [hsettings] at hle
  | quiet => exact hl
  | overlong => exact hl.alone
  | ended => exact hl.alone

theorem receiveLine {r : Recorded W H} (hl : Sound settings l)
    (ho : ∀ x ∈ (Listener.receiveLine l r).2.2.exchanges, x.Ordinary) :
    Sound settings (Listener.receiveLine l r).2.1 := by
  cases hc : l.client with
  | none =>
    rw [receiveLine_of_no_client hc]
    exact hl
  | some h =>
    obtain ⟨t, ht, _, _⟩ := receiveLine_of_client hc ho
    exact hl.heard hc ht

end Sound
end Listener

/-- What a host can ask of a server. -/
inductive Order where
  | start
  | stop
  | tick

namespace Server

/-- What becomes of an order does not matter: the host goes on after a failure too. -/
def obey (o : Order) (s : Server H) (c : Context L) (w : W) : Server H × Context L × W :=
  match o with
  | .start => ((s.start w).2.1, c, (s.start w).2.2)
  | .stop => ((s.stop w).2.1, c, (s.stop w).2.2)
  | .tick => (s.tick c w).2

def obeyAll : List Order → Server H → Context L → W → Server H × Context L × W
  | [], s, c, w => (s, c, w)
  | o :: more, s, c, w =>
    match obey o s c w with
    | (s, c, w) => obeyAll more s c w

/-- What holds of a server between orders. -/
structure Sound (settings : Settings) (s : Server H) : Prop where
  listener : s.listener.Sound settings
  running : s.running = true ↔ s.listener.isBound = true

theorem adds_obey {P : Exchange H → Prop} (hP : Attends P) (haccepted : ∀ h a, P (.accepted h a))
    (o : Order) (s : Server H) (c : Context L) (r : Recorded W H) :
    Adds P r (obey o s c r).2.2 := by
  cases o with
  | start => exact adds_start s r hP
  | stop => exact adds_stop s r hP
  | tick => exact adds_tick s c r hP haccepted

theorem adds_obeyAll {P : Exchange H → Prop} (hP : Attends P)
    (haccepted : ∀ h a, P (.accepted h a)) (orders : List Order) (s : Server H) (c : Context L)
    (r : Recorded W H) : Adds P r (obeyAll orders s c r).2.2 := by
  induction orders generalizing s c r with
  | nil => exact .refl r
  | cons o more ih => exact (adds_obey hP haccepted o s c r).trans (ih _ _ _)

/-- Any calls at all. -/
theorem attends_true : Attends (fun _ : Exchange H => True) :=
  ⟨fun _ _ => trivial, fun _ _ _ => trivial, fun _ _ _ _ _ => trivial, fun _ _ => trivial⟩

namespace Sound

variable {settings : Settings} {s : Server H}

theorem new (settings : Settings) : Sound settings (new settings : Server H) where
  listener := .new settings
  running := by simp [Server.new, Listener.new, Listener.isBound]

theorem start (hs : Sound settings s) (w : W) : Sound settings (s.start w).2.1 := by
  cases hrun : s.running with
  | true =>
    rw [start_of_running hrun]
    exact hs
  | false =>
    rcases start_cases hrun w with ⟨_, hsame⟩ | ⟨_, server, hstarted⟩
    · rw [hsame]
      exact hs
    · rw [hstarted]
      exact ⟨hs.listener.attached server, by simp [Listener.isBound]⟩

theorem stop (hs : Sound settings s) (w : W) : Sound settings (s.stop w).2.1 := by
  rcases stop_cases s w with ⟨_, hsame | halone⟩ | ⟨_, hstopped⟩
  · rw [hsame]
    exact hs
  · rw [halone]
    exact ⟨hs.listener.alone, hs.running⟩
  · rw [hstopped]
    exact ⟨hs.listener.free none, by simp [Listener.isBound]⟩

theorem welcome (hs : Sound settings s) (w : W) : Sound settings (s.welcome w).2.1 := by
  rw [listener_welcome]
  refine ⟨hs.listener.acceptIfNone w, ?_⟩
  dsimp only
  rw [Listener.isBound, Listener.server_acceptIfNone]
  exact hs.running

theorem serve (hs : Sound settings s) (c : Context L) (r : Recorded W H)
    (ho : ∀ x ∈ (s.serve c r).2.2.2.exchanges, x.Ordinary) :
    Sound settings (s.serve c r).2.1 := by
  have hreceived := adds_received s c r attends_true
  rw [listener_serve]
  refine ⟨hs.listener.receiveLine fun x hx => ho x (hreceived.mem hx), ?_⟩
  dsimp only
  rw [Listener.isBound, (Listener.receiveLine_kept s.listener r).1]
  exact hs.running

theorem tick (hs : Sound settings s) (c : Context L) (r : Recorded W H)
    (ho : ∀ x ∈ (s.tick c r).2.2.2.exchanges, x.Ordinary) :
    Sound settings (s.tick c r).2.1 := by
  cases hrun : s.running with
  | false =>
    rw [tick_of_not_running hrun]
    exact hs
  | true =>
    have hwelcome := hs.welcome r
    rw [Server.tick, if_pos hrun] at ho ⊢
    generalize s.welcome r = out at hwelcome ho ⊢
    rcases out with ⟨f | u, s', r'⟩
    · exact hwelcome
    · exact hwelcome.serve c r' ho

theorem obey (hs : Sound settings s) (o : Order) (c : Context L) (r : Recorded W H)
    (ho : ∀ x ∈ (obey o s c r).2.2.exchanges, x.Ordinary) : Sound settings (obey o s c r).1 := by
  cases o with
  | start => exact hs.start r
  | stop => exact hs.stop r
  | tick => exact hs.tick c r ho

theorem obeyAll (hs : Sound settings s) (orders : List Order) (c : Context L) (r : Recorded W H)
    (ho : ∀ x ∈ (obeyAll orders s c r).2.2.exchanges, x.Ordinary) :
    Sound settings (obeyAll orders s c r).1 := by
  induction orders generalizing s c r with
  | nil => exact hs
  | cons o more ih =>
    have hfirst := hs.obey o c r fun x hx =>
      ho x ((adds_obeyAll attends_true (fun _ _ => trivial) more _ _ _).mem hx)
    exact ih hfirst _ _ ho

end Sound

/-- Whether a call looks for a client. -/
def looks : Exchange H → Bool
  | .accepted _ _ => true
  | _ => false

theorem attends_not_looks : Attends (fun x : Exchange H => looks x = false) :=
  ⟨fun _ _ => rfl, fun _ _ _ => rfl, fun _ _ _ _ _ => rfl, fun _ _ => rfl⟩

/-- Looking for a client is the first thing that a tick does, if it has none. -/
theorem looks_of_obey (o : Order) (s : Server H) (c : Context L) (r : Recorded W H) :
    ∃ new, (obey o s c r).2.2.exchanges = r.exchanges ++ new ∧
      ∀ before server a after, new = before ++ .accepted server a :: after →
        before = [] ∧ o = .tick ∧ s.listener.server = some server ∧
          s.listener.client = none := by
  have habsurd {new before after : List (Exchange H)} {server : H}
      {a : Except Fault (H × Endpoint)} (hnew : ∀ x ∈ new, looks x = false)
      (heq : new = before ++ .accepted server a :: after) : False := by
    have hlooks := hnew (.accepted server a) (by simp [heq])
    contradiction
  cases o with
  | start =>
    obtain ⟨new, hadds, hnew⟩ := adds_start s r attends_not_looks
    exact ⟨new, hadds, fun _ _ _ _ heq => (habsurd hnew heq).elim⟩
  | stop =>
    obtain ⟨new, hadds, hnew⟩ := adds_stop s r attends_not_looks
    exact ⟨new, hadds, fun _ _ _ _ heq => (habsurd hnew heq).elim⟩
  | tick =>
    rcases tick_cases s c r attends_not_looks with
      ⟨new, hadds, hnew⟩ | ⟨server, a, r', _, hs, hc, hr', new, hadds, hnew⟩
    · exact ⟨new, hadds, fun _ _ _ _ heq => (habsurd hnew heq).elim⟩
    · refine ⟨.accepted server a :: new, ?_, ?_⟩
      · rw [obey, hadds, hr', List.append_assoc]
        rfl
      · intro before server' a' after heq
        cases before with
        | nil =>
          obtain ⟨hfirst, _⟩ := List.cons.inj heq
          obtain ⟨rfl, _⟩ := Exchange.accepted.inj hfirst
          exact ⟨rfl, rfl, hs, hc⟩
        | cons x before => exact (habsurd hnew (List.cons.inj heq).2).elim

/-- Whatever a host asks of a server that was new, and whatever the network answers, what holds of the
server holds in the end. The next order looks for a client only if there is none, and a server that does
not run makes no call when it is ticked. -/
theorem always_sound (settings : Settings) (orders : List Order) (c : Context L) (w : W)
    (ho : ∀ x ∈ (obeyAll orders (Server.new settings) c
      (⟨w, []⟩ : Recorded W H)).2.2.exchanges, x.Ordinary) :
    ∃ s c' r, obeyAll orders (Server.new settings) c (⟨w, []⟩ : Recorded W H) = (s, c', r) ∧
      (s.running = true ↔ s.listener.isBound = true) ∧
      (s.listener.hasClient = true → s.listener.isBound = true) ∧
      (s.listener.client = none → s.listener.buffer = []) ∧
      s.listener.buffer.length ≤ settings.maxLine ∧
      (∀ o, ∃ new, (obey o s c' r).2.2.exchanges = r.exchanges ++ new ∧
        ∀ before server a after, new = before ++ .accepted server a :: after →
          before = [] ∧ o = .tick ∧ s.listener.server = some server ∧
            s.listener.client = none) ∧
      (s.running = false → s.tick c' r = (.ok (), s, c', r)) := by
  have hsound := (Sound.new settings).obeyAll orders c (⟨w, []⟩ : Recorded W H) ho
  rcases hrun : obeyAll orders (Server.new settings) c (⟨w, []⟩ : Recorded W H) with ⟨s, c', r⟩
  rw [hrun] at hsound
  refine ⟨s, c', r, rfl, hsound.running, hsound.listener.bound, hsound.listener.empty,
    hsound.listener.short, ?_, ?_⟩
  · intro o
    exact looks_of_obey o s c' r
  · intro hrun
    exact tick_of_not_running hrun c' r

open Schedule (narrow fragments)

/-- A stop in the middle of the first visit fails, and the server goes on. -/
def interrupted : List Order :=
  [.tick, .start, .tick, .tick, .tick, .stop, .tick, .start, .start, .tick, .tick, .tick, .tick,
    .tick, .stop]

theorem ordinary_interrupted :
    ∀ x ∈ (obeyAll interrupted (Server.new narrow) (Context.new "<repl>" : Context scripts)
      (⟨fragments, []⟩ : Recorded Schedule Nat)).2.2.exchanges, x.Ordinary := by
  decide +kernel

theorem interrupted_sound :
    (∀ x ∈ (obeyAll interrupted (Server.new narrow) (Context.new "<repl>" : Context scripts)
      (⟨fragments, []⟩ : Recorded Schedule Nat)).2.2.exchanges, x.Ordinary) ∧
    ∃ s c' r, obeyAll interrupted (Server.new narrow) (Context.new "<repl>" : Context scripts)
        (⟨fragments, []⟩ : Recorded Schedule Nat) = (s, c', r) ∧
      (s.running = true ↔ s.listener.isBound = true) ∧
      (s.listener.client = none → s.listener.buffer = []) ∧
      s.listener.buffer.length ≤ narrow.maxLine := by
  obtain ⟨s, c', r, hrun, hrunning, _, hempty, hshort, _⟩ :=
    always_sound narrow interrupted (Context.new "<repl>" : Context scripts) fragments
      ordinary_interrupted
  exact ⟨ordinary_interrupted, s, c', r, hrun, hrunning, hempty, hshort⟩

end Server
end LiveConsole.Net
