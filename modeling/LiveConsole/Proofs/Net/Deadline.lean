import LiveConsole.Proofs.Net.Dialing
import LiveConsole.Proofs.Net.Polling
import Mathlib.Data.List.Chain
import Mathlib.Data.Rat.Floor
import Mathlib.Tactic.Linarith

/-!
# The deadline of a poll

A poll ticks and looks at its socket by turns, while no line is complete and its deadline has not passed.
It ends with the first message, with what its tick or its socket failed with, or at the first look at the
clock after the deadline. Where time is exact and every round takes some, the deadline bounds the ticks.
-/

namespace LiveConsole.Net
set_option autoImplicit false

open Datum (Quantity)

variable {W H τ ε : Type}

namespace Client

/-- Why a poll ends after an entry of its log, if it does. -/
def settlement? : Incident H τ ε → Option (Interruption ε)
  | .timed _ _ _ _ => none
  | .ticked _ (.ok ()) => none
  | .ticked _ (.error e) => some (.tick e)
  | .received _ _ a => if waitsOn a then none else some (.own (loss a))

/-- A tick before each look at the socket, and a look after each tick that does not fail. -/
inductive Alternating (h : H) : List (Incident H τ ε) → Prop where
  | nil : Alternating h []
  | raised (now : τ) (e : ε) : Alternating h [.ticked now (.error e)]
  | round (now : τ) (a : Except Fault (List UInt8)) {log : List (Incident H τ ε)}
      (hmore : Alternating h log) :
      Alternating h (.ticked now (.ok ()) :: .received h chunkSize a :: log)

/-- Why a poll fails, by its log and the time at its end. -/
inductive Cause [LT τ] (limit : Quantity) (deadline final : τ) :
    List (Incident H τ ε) → Interruption ε → Prop where
  | late {log : List (Incident H τ ε)} (hnow : deadline < final) :
      Cause limit deadline final log (.own (.timedOut limit))
  | raised (before : List (Incident H τ ε)) (now : τ) (e : ε) :
      Cause limit deadline final (before ++ [.ticked now (.error e)]) (.tick e)
  | closed (before : List (Incident H τ ε)) (h : H) (size : Nat) :
      Cause limit deadline final (before ++ [.received h size (.ok [])]) (.own .closed)
  | lost (before : List (Incident H τ ε)) (h : H) (size : Nat) {f : Fault}
      (hf : f.isA .timeoutError = false) :
      Cause limit deadline final (before ++ [.received h size (.error f)]) (.own (.fault f))

/-- What holds of a poll whose complete lines are messages, while its socket has the timeout of the poll:
of its log, how it ends, the buffer afterwards and the time then. -/
structure Exact [LT τ] (room : Nat) (limit : Quantity) (deadline : τ) (rounds : Nat)
    (b : List UInt8) (h : H) (log : List (Incident H τ ε)) (ending : Ending (Interruption ε))
    (b' : List UInt8) (final : τ) : Prop where
  alternating : Alternating h log
  ticked : ∀ before now a after, log = before ++ .ticked now a :: after →
    newline ∉ b ++ arrived (exchanges before) ∧ ¬deadline < now
  drawn : Drawn room (b ++ arrived (exchanges log)) ending b'
  settled : ∀ before x after f, log = before ++ x :: after → settlement? x = some f →
    after = [] ∧ ending = .failed f
  failed : ∀ f, ending = .failed f → Cause limit deadline final log f
  unfinished : ending = .unfinished → log.countP Incident.isTick = rounds

section Causes

variable [LT τ] {limit : Quantity} {deadline final : τ}

theorem Cause.cons {log : List (Incident H τ ε)} {f : Interruption ε}
    (hcause : Cause limit deadline final log f) (x : Incident H τ ε) :
    Cause limit deadline final (x :: log) f := by
  cases hcause with
  | late hnow => exact .late hnow
  | raised before now e => exact .raised (x :: before) now e
  | closed before h size => exact .closed (x :: before) h size
  | lost before h size hf => exact .lost (x :: before) h size hf

theorem cause_of_loss {a : Except Fault (List UInt8)} (ha : waitsOn a = false)
    (before : List (Incident H τ ε)) {h : H} {size : Nat} :
    Cause limit deadline final (before ++ [.received h size a]) (.own (loss a)) := by
  rcases a with f | _ | ⟨first, rest⟩
  · exact .lost before h size ha
  · exact .closed before h size
  · contradiction

end Causes

section Place

variable {α : Type} {first second x : α} {log before after : List α}

theorem place_of_singleton (hlog : [first] = before ++ x :: after) :
    before = [] ∧ x = first ∧ after = [] := by
  rcases List.append_eq_singleton_iff.mp hlog.symm with ⟨rfl, hx⟩ | ⟨_, hx⟩
  · obtain ⟨rfl, rfl⟩ := List.cons.inj hx
    exact ⟨rfl, rfl, rfl⟩
  · cases hx

/-- Where an entry stands in a log that begins with a whole round. -/
theorem place_of_round (hlog : first :: second :: log = before ++ x :: after) :
    (before = [] ∧ x = first ∧ after = second :: log) ∨ (before = [first] ∧ x = second ∧ after = log) ∨
    ∃ before', before = first :: second :: before' ∧ log = before' ++ x :: after := by
  rcases before with _ | ⟨y, _ | ⟨z, before⟩⟩
  · obtain ⟨rfl, rfl⟩ := List.cons.inj hlog
    exact .inl ⟨rfl, rfl, rfl⟩
  · obtain ⟨rfl, hlater⟩ := List.cons.inj hlog
    obtain ⟨rfl, rfl⟩ := List.cons.inj hlater
    exact .inr (.inl ⟨rfl, rfl, rfl⟩)
  · obtain ⟨rfl, hlater⟩ := List.cons.inj hlog
    obtain ⟨rfl, rfl⟩ := List.cons.inj hlater
    exact .inr (.inr ⟨before, rfl, rfl⟩)

end Place

namespace Awaited

variable [LT τ] {room : Nat} {limit : Quantity} {deadline final : τ} {h : H} {rounds : Nat}
  {b b' : List UInt8} {log : List (Incident H τ ε)} {ending : Ending (Interruption ε)}

theorem collected (hawaited : Awaited room limit deadline h rounds b log ending b' final) :
    Collected room (some h) rounds b (exchanges log) ending b' := by
  induction hawaited with
  | spent => exact .spent
  | message hp => exact .message hp
  | unreadable hp => exact .unreadable hp
  | late hp _ => exact .left hp
  | raised hp _ => exact .left hp
  | lost hp _ ha => exact .lost hp rfl ⟨_, rfl⟩ (octets_of_waitsOn ha)
  | onward hp _ _ _ ih => exact .onward hp rfl ⟨_, rfl⟩ ih

theorem alternating (hawaited : Awaited room limit deadline h rounds b log ending b' final) :
    Alternating h log := by
  induction hawaited with
  | spent | message | unreadable | late => exact .nil
  | raised => exact .raised _ _
  | lost => exact .round _ _ .nil
  | onward _ _ _ _ ih => exact .round _ _ ih

theorem ticked (hawaited : Awaited room limit deadline h rounds b log ending b' final)
    (hlegible : Legible room (b ++ arrived (exchanges log))) (before : List (Incident H τ ε)) (now : τ)
    (a : Except ε Unit) (after : List (Incident H τ ε)) (hlog : log = before ++ .ticked now a :: after) :
    newline ∉ b ++ arrived (exchanges before) ∧ ¬deadline < now := by
  induction hawaited generalizing before with
  | spent | message | unreadable | late => simp at hlog
  | raised hp hnow =>
    obtain ⟨rfl, hx, _⟩ := place_of_singleton hlog
    obtain ⟨rfl, _⟩ := Incident.ticked.inj hx
    rw [exchanges_nil, arrived_nil, List.append_nil]
    exact ⟨(newline_not_mem_of_popped hlegible hp).1, hnow⟩
  | lost hp hnow _ =>
    rcases place_of_round hlog with ⟨rfl, hx, _⟩ | ⟨_, hx, _⟩ | ⟨_, _, hnone⟩
    · obtain ⟨rfl, _⟩ := Incident.ticked.inj hx
      rw [exchanges_nil, arrived_nil, List.append_nil]
      exact ⟨(newline_not_mem_of_popped hlegible hp).1, hnow⟩
    · cases hx
    · simp at hnone
  | onward hp hnow _ _ ih =>
    obtain ⟨hn, rfl⟩ := newline_not_mem_of_popped hlegible hp
    rcases place_of_round hlog with ⟨rfl, hx, _⟩ | ⟨_, hx, _⟩ | ⟨before, rfl, hlater⟩
    · obtain ⟨rfl, _⟩ := Incident.ticked.inj hx
      rw [exchanges_nil, arrived_nil, List.append_nil]
      exact ⟨hn, hnow⟩
    · cases hx
    · simp only [exchanges_ticked, exchanges_received, arrived_cons, ← List.append_assoc]
        at hlegible ⊢
      exact ih hlegible before hlater

theorem settled (hawaited : Awaited room limit deadline h rounds b log ending b' final)
    (before : List (Incident H τ ε)) (x : Incident H τ ε) (after : List (Incident H τ ε))
    (f : Interruption ε) (hlog : log = before ++ x :: after) (hx : settlement? x = some f) :
    after = [] ∧ ending = .failed f := by
  induction hawaited generalizing before with
  | spent | message | unreadable | late => simp at hlog
  | raised _ _ =>
    obtain ⟨_, rfl, rfl⟩ := place_of_singleton hlog
    exact ⟨rfl, congrArg _ (Option.some.inj hx)⟩
  | lost _ _ ha =>
    rcases place_of_round hlog with ⟨_, rfl, _⟩ | ⟨_, rfl, rfl⟩ | ⟨_, _, hnone⟩
    · cases hx
    · rw [settlement?, ha] at hx
      exact ⟨rfl, congrArg _ (Option.some.inj hx)⟩
    · simp at hnone
  | onward _ _ ha _ ih =>
    rcases place_of_round hlog with ⟨_, rfl, _⟩ | ⟨_, rfl, _⟩ | ⟨before, _, hlater⟩
    · cases hx
    · rw [settlement?, ha] at hx
      cases hx
    · exact ih before hlater

theorem failed (hawaited : Awaited room limit deadline h rounds b log ending b' final)
    (hlegible : Legible room (b ++ arrived (exchanges log))) (f : Interruption ε)
    (hending : ending = .failed f) : Cause limit deadline final log f := by
  induction hawaited with
  | spent | message => cases hending
  | unreadable hp => exact (popped_ne_error hlegible hp).elim
  | late _ hnow =>
    obtain rfl := Ending.failed.inj hending
    exact .late hnow
  | raised _ _ =>
    obtain rfl := Ending.failed.inj hending
    exact .raised [] _ _
  | lost _ _ ha =>
    obtain rfl := Ending.failed.inj hending
    exact cause_of_loss ha [_]
  | onward hp _ _ _ ih =>
    obtain ⟨_, rfl⟩ := newline_not_mem_of_popped hlegible hp
    simp only [exchanges_ticked, exchanges_received, arrived_cons, ← List.append_assoc] at hlegible
    exact ((ih hlegible hending).cons _).cons _

theorem unfinished (hawaited : Awaited room limit deadline h rounds b log ending b' final)
    (hending : ending = .unfinished) : log.countP Incident.isTick = rounds := by
  induction hawaited with
  | spent => rfl
  | message | unreadable | late | raised | lost => cases hending
  | onward _ _ _ _ ih =>
    rw [List.countP_cons_of_pos rfl, List.countP_cons_of_neg Bool.false_ne_true, ih hending]

theorem exact (hawaited : Awaited room limit deadline h rounds b log ending b' final)
    (hlegible : Legible room (b ++ arrived (exchanges log))) :
    Exact room limit deadline rounds b h log ending b' final where
  alternating := hawaited.alternating
  ticked := hawaited.ticked hlegible
  drawn := hawaited.collected.drawn hlegible
  settled := hawaited.settled
  failed := hawaited.failed hlegible
  unfinished := hawaited.unfinished

end Awaited

theorem Course.exact [LT τ] {room : Nat} {limit interval : Quantity} {start deadline : τ} {rounds : Nat}
    {c : Client H} {b b' : List UInt8} {log : List (Incident H τ ε)}
    {ending : Ending (Interruption ε)}
    (hcourse : Course (fun h => Awaited room limit deadline h rounds b) limit interval start c log
      ending b')
    (hlegible : Legible room (b ++ arrived (exchanges log))) :
    Course (Exact room limit deadline rounds b) limit interval start c log ending b' :=
  hcourse.imp fun _ _ _ _ _ harrived hinner => hinner.exact (harrived ▸ hlegible)

/-- Times that are exact: they add up, and are in the order of their values. -/
structure Measures [Add τ] [LT τ] (value : τ → ℚ) : Prop where
  add : ∀ s t, value (s + t) = value s + value t
  lt_iff : ∀ s t, s < t ↔ value s < value t

/-- A time at which the clock was read, and whether a whole round follows. -/
def reading? : Incident H τ ε → Option (τ × Bool)
  | .timed now _ _ _ => some (now, false)
  | .ticked now a => some (now, a.isOk)
  | .received _ _ _ => none

/-- The clock does not go back, and goes on by no less than `d` in every whole round. -/
def Advances (value : τ → ℚ) (d : ℚ) (log : List (Incident H τ ε)) : Prop :=
  (log.filterMap reading?).IsChain fun s t => value s.1 + (if s.2 then d else 0) ≤ value t.1

instance (value : τ → ℚ) (d : ℚ) (log : List (Incident H τ ε)) : Decidable (Advances value d log) :=
  inferInstanceAs (Decidable (List.IsChain _ _))

section Bound

variable {value : τ → ℚ} {d limit : ℚ} {log : List (Incident H τ ε)} {h : H}

/-- From the first tick to the last one the clock goes on by `d` in every round. -/
theorem Alternating.ticks_le (halternating : Alternating h log) {start : ℚ}
    (hstart : ∀ s ∈ (log.filterMap reading?).head?, start ≤ value s.1)
    (hadvances : Advances value d log) (hlate : ∀ now a, .ticked now a ∈ log → value now ≤ limit)
    (hsome : log ≠ []) : start + log.countP Incident.isTick * d ≤ limit + d := by
  induction halternating generalizing start with
  | nil => contradiction
  | raised now e =>
    have hfirst : start ≤ value now := hstart (now, false) rfl
    have hlast : value now ≤ limit := hlate now (.error e) (List.mem_singleton.mpr rfl)
    rw [List.countP_singleton, Incident.isTick, if_pos rfl]
    push_cast
    linarith
  | @round now a more _ ih =>
    have hfirst : start ≤ value now := hstart (now, true) rfl
    have hlast : value now ≤ limit := hlate now (.ok ()) List.mem_cons_self
    -- the reading after a whole round is that of the next tick
    obtain ⟨hround, hchain⟩ := List.isChain_cons.mp hadvances
    have hnext : ∀ s ∈ (more.filterMap reading?).head?, value now + d ≤ value s.1 := hround
    rw [List.countP_cons_of_pos rfl, List.countP_cons_of_neg Bool.false_ne_true]
    push_cast
    rcases eq_or_ne more [] with rfl | hmore
    · rw [List.countP_nil]
      push_cast
      linarith
    · have hrest := ih hnext hchain
        (fun now a hmem => hlate now a (List.mem_cons_of_mem _ (List.mem_cons_of_mem _ hmem))) hmore
      linarith

theorem le_floor_add_one {n : Nat} (hd : 0 < d) (hn : n * d ≤ limit + d) :
    n ≤ ⌊limit / d⌋₊ + 1 := by
  cases n with
  | zero => exact Nat.zero_le _
  | succ n =>
    refine Nat.succ_le_succ (Nat.le_floor ?_)
    rw [le_div_iff₀ hd]
    push_cast at hn
    linarith

variable [LT τ] [Add τ] {room : Nat} {l : Quantity} {start span final : τ} {rounds : Nat}
  {b b' : List UInt8} {ending : Ending (Interruption ε)}

theorem Exact.ticks_le (hexact : Exact room l (start + span) rounds b h log ending b' final)
    (hvalue : Measures value) (hd : 0 < d) {limit : Quantity} {a : Except Fault Unit}
    (after : List (Incident H τ ε))
    (hadvances : Advances value d (.timed start h limit a :: log ++ after)) :
    log.countP Incident.isTick ≤ ⌊value span / d⌋₊ + 1 := by
  rcases eq_or_ne log [] with rfl | hsome
  · exact Nat.zero_le _
  have htimed : reading? (.timed start h limit a : Incident H τ ε) = some (start, false) := rfl
  rw [Advances, List.cons_append, List.filterMap_cons_some htimed, List.filterMap_append] at hadvances
  obtain ⟨hfirst, hchain⟩ := List.isChain_cons.mp hadvances
  have hstart : ∀ s ∈ (log.filterMap reading?).head?, value start ≤ value s.1 := by
    intro s hs
    have hnext := hfirst s (by rw [List.head?_append, Option.mem_def.mp hs]; rfl)
    rwa [if_neg Bool.false_ne_true, add_zero] at hnext
  have hlate : ∀ now a, .ticked now a ∈ log → value now ≤ value start + value span := by
    intro now a hmem
    obtain ⟨before, later, hlog⟩ := List.append_of_mem hmem
    rw [← hvalue.add, ← not_lt, ← hvalue.lt_iff]
    exact (hexact.ticked before now a later hlog).2
  have hticks := hexact.alternating.ticks_le hstart hchain.left_of_append hlate hsome
  exact le_floor_add_one hd (by linarith)

theorem Course.ticks_le {interval : Quantity} {c : Client H}
    (hcourse : Course (Exact room l (start + span) rounds b) l interval start c log ending b')
    (hvalue : Measures value) (hd : 0 < d) (hadvances : Advances value d log) :
    log.countP Incident.isTick ≤ ⌊value span / d⌋₊ + 1 ∧
      (⌊value span / d⌋₊ + 1 < rounds → ending ≠ .unfinished) := by
  cases hcourse with
  | immeasurable | unconnected | refused => exact ⟨Nat.zero_le _, nofun⟩
  | unfinished _ _ hexact =>
    rw [List.countP_cons_of_neg Bool.false_ne_true]
    have hticks := hexact.ticks_le hvalue hd [] (by rwa [List.append_nil])
    refine ⟨hticks, fun hrounds => ?_⟩
    rw [hexact.unfinished rfl] at hticks
    omega
  | restored _ _ hends hexact =>
    rw [List.cons_append, List.countP_cons_of_neg Bool.false_ne_true, List.countP_append]
    exact ⟨hexact.ticks_le hvalue hd _ hadvances, fun _ => hends⟩
  | unrestored _ _ _ hexact =>
    rw [List.cons_append, List.countP_cons_of_neg Bool.false_ne_true, List.countP_append]
    exact ⟨hexact.ticks_le hvalue hd _ hadvances, nofun⟩

end Bound

variable [Sockets W H] [Clock W τ] [LT τ] [DecidableLT τ] [Add τ]

/-- Over any network and with any tick, where the complete lines of what was in the buffer and of what came
are messages. -/
theorem poll_exact (rounds : Nat) (tick : W → Except ε Unit × W) (limit : Option Quantity)
    (interval : Quantity) (c : Client H) (w : W)
    (hlegible : Legible c.room (c.buffer ++ arrived (exchanges
      (poll rounds (Watched.ticking tick) limit interval c
        (⟨w, []⟩ : Watched W H τ ε)).2.2.log))) :
    ∃ log ending b w', Polls rounds tick limit interval c w log ending b w' ∧
      Course (Exact c.room (limit.getD c.timeout)
          (Clock.now w + Clock.span W (limit.getD c.timeout)) rounds c.buffer)
        (limit.getD c.timeout) interval (Clock.now w) c log ending b ∧
      ∀ (value : τ → ℚ) (d : ℚ), Measures value → 0 < d → Advances value d log →
        log.countP Incident.isTick ≤ ⌊value (Clock.span W (limit.getD c.timeout)) / d⌋₊ + 1 ∧
        (⌊value (Clock.span W (limit.getD c.timeout)) / d⌋₊ + 1 < rounds → ending ≠ .unfinished) := by
  obtain ⟨log, ending, b, w', hpolls, hawaited⟩ := exists_course rounds tick limit interval c w
  rw [hpolls.watched] at hlegible
  have hcourse := hawaited.exact hlegible
  exact ⟨log, ending, b, w', hpolls, hcourse, fun value d hvalue hd => hcourse.ticks_le hvalue hd⟩

end Client

namespace Dialing

open Arrival (portion)
open Client

/-- A message of whose octets the last ones come when it is nearly too late, with the start of another. -/
def halting : Dialing :=
  ⟨⟨[], [.visitor ⟨[late] ++ portion "1\x7d" ++ [late] ++ portion "\n\x7b\"b\"",
    ⟨.ok [], ends_nil⟩, [], .done⟩]⟩, 0⟩

def patient : Client Nat :=
  ⟨defaultHost, defaultPort, .int 5, 0, some 0, Utf8.encodeReplacing "\x7b\"a\":"⟩

def slowTick (w : Dialing) : Except Empty Unit × Dialing := (.ok (), { w with time := w.time + 1 })

def haltingLog : List (Incident Nat Nat Empty) :=
  (poll 9 (Watched.ticking slowTick) (some (.int 7)) (.int 1) patient
    (⟨halting, []⟩ : Watched Dialing Nat Nat Empty)).2.2.log

/-- The message is returned, with as many ticks as there may be, and later than the deadline. -/
theorem halting_exact :
    Legible patient.room (patient.buffer ++ arrived (exchanges haltingLog)) ∧
    Measures (Nat.cast : Nat → ℚ) ∧ Advances (Nat.cast : Nat → ℚ) 2 haltingLog ∧
    haltingLog.countP Incident.isTick = 4 ∧
    ∃ ending b w', Polls 9 slowTick (some (.int 7)) (.int 1) patient halting haltingLog ending b w' ∧
      Course (Exact patient.room (.int 7) 7 9 patient.buffer) (.int 7) (.int 1) 0 patient haltingLog
        ending b ∧
      haltingLog.countP Incident.isTick ≤ 4 ∧ ending ≠ .unfinished := by
  have hlegible : Legible patient.room (patient.buffer ++ arrived (exchanges haltingLog)) := by
    decide +kernel
  have hmeasures : Measures (Nat.cast : Nat → ℚ) := ⟨Nat.cast_add, fun _ _ => Nat.cast_lt.symm⟩
  have hadvances : Advances (Nat.cast : Nat → ℚ) 2 haltingLog := by decide +kernel
  obtain ⟨log, ending, b, w', hpolls, hcourse, hbound⟩ :=
    poll_exact 9 slowTick (some (.int 7)) (.int 1) patient halting hlegible
  have hlog : haltingLog = log := by rw [haltingLog, hpolls.watched]
  subst hlog
  have hfloor : ⌊((Clock.span Dialing (.int 7) : Nat) : ℚ) / 2⌋₊ = 3 := by decide +kernel
  obtain ⟨hticks, hends⟩ := hbound Nat.cast 2 hmeasures (by decide) hadvances
  rw [Option.getD_some, hfloor] at hticks hends
  exact ⟨hlegible, hmeasures, hadvances, by decide +kernel, ending, b, w', hpolls, hcourse, hticks,
    hends (by decide)⟩

end Dialing

end LiveConsole.Net
