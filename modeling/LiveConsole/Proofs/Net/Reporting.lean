import LiveConsole.Proofs.Net.Deadline

/-!
# What a wait reports

A client that reads or polls returns a message, or reports that none came in time, that its connection
is gone, or what its tick failed with. A socket without a timeout tells at once that nothing is there; a
wait takes that for a fault of the connection and passes it on.
-/

namespace LiveConsole.Net
set_option autoImplicit false

open Datum (Quantity)

variable {W H τ ε : Type}

namespace Client

inductive Wait (W ε : Type) where
  | read
  | poll (tick : W → Except ε Unit × W) (limit : Option Quantity) (interval : Quantity)

namespace Wait

/-- The timeout of the socket during a wait. -/
def mode (k : Wait W ε) (c : Client H) : Quantity :=
  match k with
  | .read => c.timeout
  | .poll _ _ interval => interval

/-- How long a wait may take. -/
def limit (k : Wait W ε) (c : Client H) : Quantity :=
  match k with
  | .read => c.timeout
  | .poll _ limit _ => limit.getD c.timeout

variable [Sockets W H] [Clock W τ]

def watched : Wait W ε → Wait (Watched W H τ ε) ε
  | .read => .read
  | .poll tick limit interval => .poll (Watched.ticking tick) limit interval

def run [LT τ] [DecidableLT τ] [Add τ] (k : Wait W ε) (rounds : Nat) (c : Client H) (w : W) :
    Ending (Interruption ε) × Client H × W :=
  match k with
  | .read => ((readMessage rounds c w).1.own, (readMessage rounds c w).2)
  | .poll tick limit interval => Client.poll rounds tick limit interval c w

end Wait

/-- The kind of fault by which a socket with a timeout tells that nothing came. Without one it does not
wait. -/
def idle (mode : Quantity) : ErrorKind := if mode.datum.isFalsy then .blockingError else .timeoutError

/-- What is received is octets, or the connection ends or is lost, or nothing comes. -/
def Usual (mode : Quantity) : Incident H τ ε → Prop
  | .received _ _ (.error f) => f.isA .connectionError = true ∨ f.kind = idle mode
  | _ => True

instance (mode : Quantity) : DecidablePred (Usual mode : Incident H τ ε → Prop)
  | .received _ _ (.error f) =>
    inferInstanceAs (Decidable (f.isA .connectionError = true ∨ f.kind = idle mode))
  | .received _ _ (.ok _) | .timed _ _ _ _ | .ticked _ _ => isTrue trivial

theorem two_pow_le_tenTo (n : Nat) : 2 ^ n ≤ tenTo n := Nat.pow_le_pow_left (by decide) n

theorem exponentFor_one_ge (num : Nat) : (num.log2 : Int) - 53 ≤ Binary64.exponentFor num 1 := by
  have hone : Nat.log2 1 = 0 := by decide
  rw [Binary64.exponentFor, hone]
  dsimp only
  split
  · omega
  · omega

/-- Doubles end long before the integers that can be written do. -/
theorem parts_ofInt_of_not_fits {n : Int} (hlong : Digits.fits n = false) :
    Binary64.parts (Binary64.ofInt n) = .infinite (n < 0) := by
  rw [Digits.fits, decide_eq_false_iff_not, not_lt] at hlong
  have hlarge : 2 ^ digitLimit ≤ n.natAbs := (two_pow_le_tenTo digitLimit).trans hlong
  have hpos : n.natAbs ≠ 0 := (lt_of_lt_of_le (Nat.two_pow_pos digitLimit) hlarge).ne'
  have hlog : digitLimit ≤ n.natAbs.log2 := (Nat.le_log2 hpos).mpr hlarge
  have hexponent := exponentFor_one_ge n.natAbs
  have hlimit : digitLimit = 4300 := rfl
  have hbits : 2047 ≤ (Binary64.exponentFor n.natAbs 1 + 1074).toNat := by omega
  rw [Binary64.ofInt, Binary64.ofRatio, if_neg hpos]
  dsimp only
  rw [if_pos ((Nat.mul_le_mul_right _ hbits).trans (Nat.le_add_right _ _))]
  cases decide (n < 0) with
  | false => rfl
  | true => rfl

/-- An integer that can be added to a time can be written. -/
theorem exists_plain_of_isMeasurable {limit : Quantity} (hlimit : isMeasurable limit = true) :
    ∃ shown, limit.datum.plain = .ok shown := by
  cases limit with
  | float x => exact ⟨_, rfl⟩
  | int n =>
    have hplain : (Quantity.int n).datum.plain = Digits.write n := by
      simp only [Quantity.datum, Datum.plain, Datum.literal]
    cases hfits : Digits.fits n with
    | true => exact ⟨_, hplain.trans (Digits.write_eq_ok_iff.mpr ⟨hfits, rfl⟩)⟩
    | false =>
      rw [isMeasurable, parts_ofInt_of_not_fits hfits] at hlimit
      cases hlimit

/-- Why reading ends after an answer that brings nothing. -/
def forfeit (limit : Quantity) : Except Fault (List UInt8) → Failure
  | .ok _ => .closed
  | .error f => if f.isA .timeoutError then .timedOut limit else .fault f

theorem forfeit_of_waitsOn {limit : Quantity} {a : Except Fault (List UInt8)}
    (ha : waitsOn a = false) : forfeit limit a = loss a := by
  cases a with
  | ok chunk => rfl
  | error f =>
    rw [waitsOn] at ha
    rw [forfeit, ha]
    rfl

/-- The ways in which reading can go: the rounds that it may take, the buffer before, the log, how it ends
and the buffer afterwards. -/
inductive Gathered (room : Nat) (limit : Quantity) (socket : Option H) :
    Nat → List UInt8 → List (Incident H τ ε) → Ending Failure → List UInt8 → Prop where
  | spent {b : List UInt8} : Gathered room limit socket 0 b [] .unfinished b
  | message {more : Nat} {b b' : List UInt8} {d : Datum} (hp : popped room b = (.ok (some d), b')) :
      Gathered room limit socket (more + 1) b [] (.message d) b'
  | unreadable {more : Nat} {b b' : List UInt8} {e : Failure} (hp : popped room b = (.error e, b')) :
      Gathered room limit socket (more + 1) b [] (.failed e) b'
  | unconnected {more : Nat} {b b' : List UInt8} (hp : popped room b = (.ok none, b'))
      (hs : socket = none) :
      Gathered room limit socket (more + 1) b [] (.failed (.notConnected .receive)) b'
  | lost {more : Nat} {b b' : List UInt8} {h : H} {a : Except Fault (List UInt8)}
      (hp : popped room b = (.ok none, b')) (hs : socket = some h)
      (hnone : (Exchange.received h chunkSize a).octets = []) :
      Gathered room limit socket (more + 1) b [.received h chunkSize a] (.failed (forfeit limit a)) b'
  | onward {more : Nat} {b b' b'' : List UInt8} {h : H} {first : UInt8} {rest : List UInt8}
      {log : List (Incident H τ ε)} {ending : Ending Failure} (hp : popped room b = (.ok none, b'))
      (hs : socket = some h)
      (hmore : Gathered room limit socket more (b' ++ first :: rest) log ending b'') :
      Gathered room limit socket (more + 1) b (.received h chunkSize (.ok (first :: rest)) :: log)
        ending b''

section Reading

variable [Sockets W H] [Clock W τ]

structure Gathers (rounds : Nat) (c : Client H) (r : Watched W H τ ε) (log : List (Incident H τ ε))
    (ending : Ending Failure) (b : List UInt8) (w : W) : Prop where
  outcome : readMessage rounds c r.world = (ending, { c with buffer := b }, w)
  watched : readMessage rounds c r = (ending, { c with buffer := b }, ⟨w, r.log ++ log⟩)
  gathered : Gathered c.room c.timeout c.socket rounds c.buffer log ending b

theorem exists_gathers (rounds : Nat) (c : Client H) (r : Watched W H τ ε) :
    ∃ log ending b w, Gathers rounds c r log ending b w := by
  induction rounds generalizing c r with
  | zero =>
    refine ⟨[], .unfinished, c.buffer, r.world, rfl, ?_, .spent⟩
    rw [List.append_nil]
    rfl
  | succ more ih =>
    rcases hp : popped c.room c.buffer with ⟨e | _ | d, b⟩
    · refine ⟨[], .failed e, b, r.world, ?_, ?_, .unreadable hp⟩
      · simp only [readMessage, popMessage_eq, hp]
      · simp only [readMessage, popMessage_eq, hp, List.append_nil]
    · obtain ⟨host, port, timeout, room, _ | h, buffer⟩ := c
      · refine ⟨[], .failed (.notConnected .receive), b, r.world, ?_, ?_, .unconnected hp rfl⟩
        · simp only [readMessage, popMessage_eq, hp]
        · simp only [readMessage, popMessage_eq, hp, List.append_nil]
      · rcases hr : Sockets.receive h chunkSize r.world with ⟨f | _ | ⟨first, rest⟩, w⟩
        · refine ⟨_, _, b, w, ?_, ?_, .lost (a := .error f) hp rfl rfl⟩
          · simp only [readMessage, popMessage_eq, hp, hr, forfeit]
          · simp only [readMessage, popMessage_eq, hp, Watched.receive_of_eq hr, forfeit]
        · refine ⟨_, _, b, w, ?_, ?_, .lost (a := .ok []) hp rfl rfl⟩
          · simp only [readMessage, popMessage_eq, hp, hr, forfeit]
          · simp only [readMessage, popMessage_eq, hp, Watched.receive_of_eq hr, forfeit]
        · obtain ⟨log, ending, b', w', hmore⟩ :=
            ih ⟨host, port, timeout, room, some h, b ++ first :: rest⟩
              ⟨w, r.log ++ [.received h chunkSize (.ok (first :: rest))]⟩
          refine ⟨_, ending, b', w', ?_, ?_, .onward hp rfl hmore.gathered⟩
          · simp only [readMessage, popMessage_eq, hp, hr]
            exact hmore.outcome
          · simp only [readMessage, popMessage_eq, hp, Watched.receive_of_eq hr]
            rw [hmore.watched, List.append_assoc]
            rfl
    · refine ⟨[], .message d, b, r.world, ?_, ?_, .message hp⟩
      · simp only [readMessage, popMessage_eq, hp]
      · simp only [readMessage, popMessage_eq, hp, List.append_nil]

end Reading

/-- What a wait can report, by its log. -/
inductive Told (k : Wait W ε) (c : Client H) (log : List (Incident H τ ε)) :
    Ending (Interruption ε) → Prop where
  | message (d : Datum) : Told k c log (.message d)
  | timedOut (htext : isMeasurable (k.limit c) = true → ∃ shown,
        (k.limit c).datum.plain = .ok shown ∧ (Failure.timedOut (k.limit c)).toFault =
          .said .replTimeout ("No message within " ++ shown ++ "s")) :
      Told k c log (.failed (.own (.timedOut (k.limit c))))
  | raised {now : τ} {e : ε} (hmem : .ticked now (.error e) ∈ log) : Told k c log (.failed (.tick e))
  | closed {h : H} {size : Nat} (hmem : .received h size (.ok []) ∈ log) :
      Told k c log (.failed (.own .closed))
  | lost {h : H} {size : Nat} {f : Fault} (hmem : .received h size (.error f) ∈ log)
      (hf : f.isA .connectionError = true) : Told k c log (.failed (.own (.fault f)))
  | blocked {h : H} {size : Nat} {f : Fault} (hmem : .received h size (.error f) ∈ log)
      (hmode : (k.mode c).datum.isFalsy = true) (hf : f.kind = .blockingError) :
      Told k c log (.failed (.own (.fault f)))
  | refused {now : τ} {h : H} {limit : Quantity} {f : Fault} (hmem : .timed now h limit (.error f) ∈ log) :
      Told k c log (.failed (.own (.fault f)))
  | unconnected {call : Call} (hs : c.socket = none) :
      Told k c log (.failed (.own (.notConnected call)))
  | immeasurable (hlimit : isMeasurable (k.limit c) = false) :
      Told k c log (.failed (.own (.fault immeasurable)))
  | unfinished : Told k c log .unfinished

section Reports

variable {k : Wait W ε} {c : Client H} {log : List (Incident H τ ε)} {ending : Ending (Interruption ε)}

theorem toFault_timedOut {limit : Quantity} (hlimit : isMeasurable limit = true) :
    ∃ shown, limit.datum.plain = .ok shown ∧ (Failure.timedOut limit).toFault =
      .said .replTimeout ("No message within " ++ shown ++ "s") := by
  obtain ⟨shown, hshown⟩ := exists_plain_of_isMeasurable hlimit
  refine ⟨shown, hshown, ?_⟩
  rw [Failure.toFault, timeoutFault, hshown]

theorem mem_between {x opening closing : Incident H τ ε} (hx : x ∈ log) :
    x ∈ opening :: log ++ [closing] :=
  List.mem_append_left _ (List.mem_cons_of_mem _ hx)

theorem Told.mono {log' : List (Incident H τ ε)} (htold : Told k c log ending)
    (hsub : log ⊆ log') : Told k c log' ending := by
  cases htold with
  | message d => exact .message d
  | timedOut htext => exact .timedOut htext
  | raised hmem => exact .raised (hsub hmem)
  | closed hmem => exact .closed (hsub hmem)
  | lost hmem hf => exact .lost (hsub hmem) hf
  | blocked hmem hmode hf => exact .blocked (hsub hmem) hmode hf
  | refused hmem => exact .refused (hsub hmem)
  | unconnected hs => exact .unconnected hs
  | immeasurable hlimit => exact .immeasurable hlimit
  | unfinished => exact .unfinished

theorem told_of_usual {h : H} {size : Nat} {f : Fault} (hmem : .received h size (.error f) ∈ log)
    (husual : ∀ x ∈ log, Usual (k.mode c) x) (hf : f.isA .timeoutError = false) :
    Told k c log (.failed (.own (.fault f))) := by
  rcases husual _ hmem with hlost | hidle
  · exact .lost hmem hlost
  · rw [idle] at hidle
    split at hidle
    case isTrue hmode => exact .blocked hmem hmode hidle
    case isFalse =>
      rw [Fault.isA, hidle] at hf
      cases hf

variable {rounds : Nat} {b b' : List UInt8} {outcome : Ending Failure}

theorem Gathered.told (hgathered : Gathered c.room c.timeout c.socket rounds b log outcome b')
    (hlegible : Legible c.room (b ++ arrived (exchanges log)))
    (husual : ∀ x ∈ log, Usual c.timeout x) :
    Told (.read : Wait W ε) c log outcome.own := by
  induction hgathered with
  | spent => exact .unfinished
  | message => exact .message _
  | unreadable hp => exact (popped_ne_error hlegible hp).elim
  | unconnected _ hs => exact .unconnected hs
  | @lost _ _ _ h a _ _ hnone =>
    rcases a with f | _ | ⟨first, rest⟩
    · rw [forfeit]
      cases hf : f.isA .timeoutError with
      | true => exact .timedOut toFault_timedOut
      | false => exact told_of_usual List.mem_cons_self husual hf
    · exact .closed List.mem_cons_self
    · cases hnone
  | onward hp _ _ ih =>
    obtain ⟨_, rfl⟩ := newline_not_mem_of_popped hlegible hp
    rw [exchanges_received, arrived_cons, ← List.append_assoc] at hlegible
    exact (ih hlegible (List.forall_mem_cons.mp husual).2).mono (List.subset_cons_self _ _)

theorem Gathered.settled (hgathered : Gathered c.room c.timeout c.socket rounds b log outcome b') {h : H}
    {size : Nat} {a : Except Fault (List UInt8)} (hmem : .received h size a ∈ log)
    (ha : waitsOn a = false) : outcome = .failed (loss a) := by
  induction hgathered with
  | spent | message | unreadable | unconnected => cases hmem
  | lost =>
    cases List.mem_singleton.mp hmem
    rw [forfeit_of_waitsOn ha]
  | onward _ _ _ ih =>
    rcases List.mem_cons.mp hmem with hfirst | hlater
    · cases hfirst
      cases ha
    · exact ih hlater

theorem Gathered.countP_asks (hgathered : Gathered c.room c.timeout c.socket rounds b log outcome b')
    (hunfinished : outcome = .unfinished) : (exchanges log).countP Exchange.asks = rounds := by
  induction hgathered with
  | spent => rfl
  | message | unreadable | unconnected | lost => cases hunfinished
  | onward _ _ _ ih => rw [exchanges_received, List.countP_cons_of_pos rfl, ih hunfinished]

variable [LT τ] {limit : Quantity} {deadline final : τ} {h : H}

theorem Exact.told (hexact : Exact c.room (k.limit c) deadline rounds b h log ending b' final)
    (husual : ∀ x ∈ log, Usual (k.mode c) x) : Told k c log ending := by
  cases ending with
  | message d => exact .message d
  | unfinished => exact .unfinished
  | failed f =>
    cases hexact.failed f rfl with
    | late _ => exact .timedOut toFault_timedOut
    | raised => exact .raised (List.mem_append_right _ List.mem_cons_self)
    | closed => exact .closed (List.mem_append_right _ List.mem_cons_self)
    | @lost before h size f hf =>
      exact told_of_usual (List.mem_append_right before List.mem_cons_self) husual hf

theorem Exact.conclusive (hexact : Exact c.room limit deadline rounds b h log ending b' final) {h : H}
    {size : Nat} {a : Except Fault (List UInt8)} (hmem : .received h size a ∈ log)
    (ha : waitsOn a = false) : ending = .failed (.own (loss a)) := by
  obtain ⟨before, after, hlog⟩ := List.append_of_mem hmem
  have hsettled : settlement? (.received h size a : Incident H τ ε) = some (.own (loss a)) := by
    rw [settlement?, ha]
    rfl
  exact (hexact.settled before _ after _ hlog hsettled).2

variable {start : τ} {tick : W → Except ε Unit × W} {given : Option Quantity} {interval : Quantity}

theorem Course.told
    (hcourse : Course (Exact c.room (given.getD c.timeout) deadline rounds b) (given.getD c.timeout)
      interval start c log ending b')
    (husual : ∀ x ∈ log, Usual interval x) :
    Told (.poll tick given interval) c log ending := by
  cases hcourse with
  | immeasurable hlimit => exact .immeasurable hlimit
  | unconnected _ hs => exact .unconnected hs
  | refused => exact .refused List.mem_cons_self
  | unfinished => exact .unfinished
  | restored _ _ _ hexact =>
    have hinner := Exact.told (k := .poll tick given interval) hexact
      fun x hx => husual x (mem_between hx)
    exact hinner.mono fun _ => mem_between
  | unrestored => exact .refused (List.mem_append_right _ List.mem_cons_self)

theorem Course.conclusive
    (hcourse : Course (Exact c.room limit deadline rounds b) limit interval start c log ending b')
    (haccepted : ∀ x ∈ exchanges log, x.refuses = false) {h : H} {size : Nat}
    {a : Except Fault (List UInt8)} (hmem : .received h size a ∈ log) (ha : waitsOn a = false) :
    ending = .failed (.own (loss a)) := by
  cases hcourse with
  | immeasurable | unconnected | refused => simp at hmem
  | unfinished _ _ hexact => exact hexact.conclusive (by simpa using hmem) ha
  | restored _ _ _ hexact => exact hexact.conclusive (by simpa using hmem) ha
  | unrestored =>
    rw [exchanges_append] at haccepted
    cases haccepted _ (List.mem_append_right _ List.mem_cons_self)

theorem Course.countP_asks
    (hcourse : Course (fun h => Awaited c.room limit deadline h rounds b) limit interval start c log
      ending b')
    (hunfinished : ending = .unfinished) : (exchanges log).countP Exchange.asks = rounds := by
  cases hcourse with
  | immeasurable | unconnected | refused | unrestored => cases hunfinished
  | restored _ _ hends => contradiction
  | unfinished _ _ hawaited =>
    rw [exchanges_timed, List.countP_cons_of_neg Bool.false_ne_true]
    exact hawaited.collected.countP_asks_of_unfinished rfl

end Reports

section Waits

variable [Sockets W H] [Clock W τ] [LT τ] [DecidableLT τ] [Add τ]

/-- Over any network whose answers are usual and whose complete lines are messages. -/
theorem waits_report (k : Wait W ε) (rounds : Nat) (c : Client H) (w : W)
    (hlegible : Legible c.room (c.buffer ++
      arrived (exchanges (k.watched.run rounds c (⟨w, []⟩ : Watched W H τ ε)).2.2.log)))
    (husual : ∀ x ∈ (k.watched.run rounds c (⟨w, []⟩ : Watched W H τ ε)).2.2.log,
      Usual (k.mode c) x) :
    ∃ (log : List (Incident H τ ε)) (ending : Ending (Interruption ε)) (b : List UInt8) (w' : W),
      k.run rounds c w = (ending, { c with buffer := b }, w') ∧
      k.watched.run rounds c ⟨w, []⟩ = (ending, { c with buffer := b }, ⟨w', log⟩) ∧
      Told k c log ending ∧
      ((∀ x ∈ exchanges log, x.refuses = false) → ∀ h size a,
        .received h size a ∈ log → waitsOn a = false → ending = .failed (.own (loss a))) ∧
      (ending = .unfinished → (exchanges log).countP Exchange.asks = rounds) := by
  cases k with
  | read =>
    obtain ⟨log, ending, b, w', hgathers⟩ := exists_gathers rounds c (⟨w, []⟩ : Watched W H τ ε)
    have hrun : Wait.run (Wait.read : Wait W ε) rounds c w =
        (ending.own, { c with buffer := b }, w') := by
      rw [Wait.run, hgathers.outcome]
    have hwatched : Wait.run (Wait.watched (Wait.read : Wait W ε)) rounds c
        (⟨w, []⟩ : Watched W H τ ε) = (ending.own, { c with buffer := b }, ⟨w', log⟩) := by
      rw [Wait.watched, Wait.run, hgathers.watched, List.nil_append]
    rw [hwatched] at hlegible husual
    refine ⟨log, ending.own, b, w', hrun, hwatched, hgathers.gathered.told hlegible husual, ?_, ?_⟩
    · intro _ h size a hmem ha
      rw [hgathers.gathered.settled hmem ha]
      rfl
    · intro hunfinished
      cases ending with
      | message | failed => cases hunfinished
      | unfinished => exact hgathers.gathered.countP_asks rfl
  | poll tick given interval =>
    obtain ⟨log, ending, b, w', hpolls, hawaited⟩ := exists_course rounds tick given interval c w
    rw [Wait.watched, Wait.run, hpolls.watched] at hlegible husual
    have hcourse := hawaited.exact hlegible
    exact ⟨log, ending, b, w', hpolls.outcome, hpolls.watched, hcourse.told husual,
      fun haccepted h size a hmem ha => hcourse.conclusive haccepted hmem ha, hawaited.countP_asks⟩

end Waits

end Client

namespace Dialing

open Arrival (portion)
open Client

/-- A connection on which nothing is there at the first look, and a message at the second. -/
def unhurried : Dialing :=
  ⟨⟨[], [.visitor ⟨Schedule.pause :: portion "\x7b\"a\": 1\x7d\n", ⟨.ok [], ends_nil⟩, [], .done⟩]⟩, 0⟩

def impatient : Client Nat := ⟨defaultHost, defaultPort, .int 5, 0, some 0, []⟩

/-- A poll whose socket does not wait. -/
def glance : Wait Dialing Empty := .poll (fun w => (.ok (), w)) none (.int 0)

def glanceLog : List (Incident Nat Nat Empty) :=
  (glance.watched.run 9 impatient (⟨unhurried, []⟩ : Watched Dialing Nat Nat Empty)).2.2.log

theorem legible_glanceLog :
    Legible impatient.room (impatient.buffer ++ arrived (exchanges glanceLog)) := by
  decide +kernel

theorem usual_glanceLog : ∀ x ∈ glanceLog, Usual (.int 0) x := by
  decide +kernel

theorem unhurried_report :
    Legible impatient.room (impatient.buffer ++ arrived (exchanges glanceLog)) ∧
    (∀ x ∈ glanceLog, Usual (glance.mode impatient) x) ∧
    ∃ ending b w', glance.run 9 impatient unhurried = (ending, { impatient with buffer := b }, w') ∧
      Told glance impatient glanceLog ending := by
  obtain ⟨log, ending, b, w', hrun, hwatched, htold, _, _⟩ :=
    waits_report glance 9 impatient unhurried legible_glanceLog usual_glanceLog
  have hlog : glanceLog = log := by rw [glanceLog, hwatched]
  exact ⟨legible_glanceLog, usual_glanceLog, ending, b, w', hrun, hlog ▸ htold⟩

/-- The poll does not wait for the message: what the socket told is passed on. -/
theorem unhurried_blocked :
    Legible impatient.room (impatient.buffer ++ arrived (exchanges glanceLog)) ∧
    (∀ x ∈ glanceLog, Usual (.int 0) x) ∧ (∀ x ∈ exchanges glanceLog, x.refuses = false) ∧
    Schedule.tryAgain.kind = .blockingError ∧
    ∃ b w', glance.run 9 impatient unhurried =
      (.failed (.own (.fault Schedule.tryAgain)), { impatient with buffer := b }, w') := by
  refine ⟨legible_glanceLog, usual_glanceLog, by decide +kernel, rfl, ?_⟩
  exact ⟨_, _, rfl⟩

end Dialing

end LiveConsole.Net
