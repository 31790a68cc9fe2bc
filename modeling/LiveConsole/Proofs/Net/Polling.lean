import LiveConsole.Proofs.Net.Collecting

/-!
# Polling

A poll looks at its clock, calls a tick and looks at its socket, again and again. A log of this is kept
beside any network, which changes nothing in it. All that a poll can do is derived from the ways in which
the entries of its log can follow one another.
-/

namespace LiveConsole.Net
set_option autoImplicit false

open Datum (Quantity)

variable {W H τ ε : Type}

/-- What a poll does and what comes of it. A socket is given its timeout, and a tick is called, at a time
of the clock. -/
inductive Incident (H τ ε : Type) where
  | timed (at_ : τ) (socket : H) (limit : Quantity) (answer : Except Fault Unit)
  | ticked (at_ : τ) (answer : Except ε Unit)
  | received (socket : H) (size : Nat) (answer : Except Fault (List UInt8))

namespace Incident

def exchange? : Incident H τ ε → Option (Exchange H)
  | .timed _ h _ a => some (.timed h a)
  | .ticked _ _ => none
  | .received h size a => some (.received h size a)

def isTick : Incident H τ ε → Bool
  | .ticked _ _ => true
  | _ => false

end Incident

def exchanges (log : List (Incident H τ ε)) : List (Exchange H) := log.filterMap Incident.exchange?

@[simp] theorem exchanges_nil : exchanges ([] : List (Incident H τ ε)) = [] := rfl

@[simp] theorem exchanges_timed (t : τ) (h : H) (limit : Quantity) (a : Except Fault Unit)
    (log : List (Incident H τ ε)) :
    exchanges (.timed t h limit a :: log) = .timed h a :: exchanges log := rfl

@[simp] theorem exchanges_ticked (t : τ) (a : Except ε Unit) (log : List (Incident H τ ε)) :
    exchanges (.ticked t a :: log) = exchanges log := rfl

@[simp] theorem exchanges_received (h : H) (size : Nat) (a : Except Fault (List UInt8))
    (log : List (Incident H τ ε)) :
    exchanges (.received h size a :: log) = .received h size a :: exchanges log := rfl

@[simp] theorem exchanges_append (before after : List (Incident H τ ε)) :
    exchanges (before ++ after) = exchanges before ++ exchanges after := List.filterMap_append

structure Watched (W H τ ε : Type) where
  world : W
  log : List (Incident H τ ε)

namespace Watched

variable {α : Type}

/-- A call that is put down. -/
def keep (call : W → α × W) (incident : W → α → Incident H τ ε) (r : Watched W H τ ε) :
    α × Watched W H τ ε :=
  ((call r.world).1, ⟨(call r.world).2, r.log ++ [incident r.world (call r.world).1]⟩)

/-- A call that is not. -/
def pass (call : W → α × W) (r : Watched W H τ ε) : α × Watched W H τ ε :=
  ((call r.world).1, ⟨(call r.world).2, r.log⟩)

theorem keep_of_eq {call : W → α × W} {incident : W → α → Incident H τ ε} {r : Watched W H τ ε}
    {a : α} {w : W} (hcall : call r.world = (a, w)) :
    keep call incident r = (a, ⟨w, r.log ++ [incident r.world a]⟩) := by
  rw [keep, hcall]

/-- A tick that is put down. It has a connection of its own, whose calls are not those of the client. -/
def ticking [Clock W τ] (tick : W → Except ε Unit × W) :
    Watched W H τ ε → Except ε Unit × Watched W H τ ε :=
  keep tick fun w => .ticked (Clock.now w)

variable [Sockets W H] [Clock W τ]

instance : Sockets (Watched W H τ ε) H where
  create := pass Sockets.create
  reuseAddress h := pass (Sockets.reuseAddress h)
  bind h host port := pass (Sockets.bind h host port)
  listen h backlog := pass (Sockets.listen h backlog)
  setTimeout h t := keep (Sockets.setTimeout h t) fun w => .timed (Clock.now w) h t
  accept h := pass (Sockets.accept h)
  receive h size := keep (Sockets.receive h size) fun _ => .received h size
  sendAll h data := pass (Sockets.sendAll h data)
  close h := pass (Sockets.close h)
  connect host port t := pass (Sockets.connect host port t)
  endpoint h := pass (Sockets.endpoint h)
  note n r := ⟨Sockets.note n r.world, r.log⟩

instance : Clock (Watched W H τ ε) τ where
  now r := Clock.now r.world
  span := Clock.span W
  sleep t r := ⟨Clock.sleep t r.world, r.log⟩

variable {r : Watched W H τ ε} {w : W} {h : H}

omit [Sockets W H] in
theorem ticking_of_eq {tick : W → Except ε Unit × W} {a : Except ε Unit}
    (hw : tick r.world = (a, w)) :
    ticking tick r = (a, ⟨w, r.log ++ [.ticked (Clock.now r.world) a]⟩) :=
  keep_of_eq hw

theorem setTimeout_of_eq {t : Quantity} {a : Except Fault Unit}
    (hw : Sockets.setTimeout h t r.world = (a, w)) :
    Sockets.setTimeout h t r = (a, ⟨w, r.log ++ [.timed (Clock.now r.world) h t a]⟩) :=
  keep_of_eq hw

theorem receive_of_eq {size : Nat} {a : Except Fault (List UInt8)}
    (hw : Sockets.receive h size r.world = (a, w)) :
    Sockets.receive h size r = (a, ⟨w, r.log ++ [.received h size a]⟩) :=
  keep_of_eq hw

end Watched

namespace Client

/-- Whether a poll waits on after an answer: octets came, or nothing did in time. -/
def waitsOn : Except Fault (List UInt8) → Bool
  | .ok chunk => !chunk.isEmpty
  | .error f => f.isA .timeoutError

/-- Why a poll ends after another answer. -/
def loss : Except Fault (List UInt8) → Failure
  | .ok _ => .closed
  | .error f => .fault f

theorem octets_of_waitsOn {a : Except Fault (List UInt8)} (ha : waitsOn a = false) {h : H}
    {size : Nat} : (Exchange.received h size a).octets = [] := by
  rcases a with f | _ | ⟨first, rest⟩
  · rfl
  · rfl
  · contradiction

section Awaited

variable [LT τ] (room : Nat) (limit : Quantity) (deadline : τ) (h : H)

/-- The ways in which a poll can go on: the rounds that it may take, the buffer before, the log, how it
ends, the buffer afterwards and the time then. -/
inductive Awaited : Nat → List UInt8 → List (Incident H τ ε) → Ending (Interruption ε) → List UInt8 → τ →
    Prop where
  | spent {b : List UInt8} {final : τ} : Awaited 0 b [] .unfinished b final
  | message {more : Nat} {b b' : List UInt8} {final : τ} {d : Datum}
      (hp : popped room b = (.ok (some d), b')) : Awaited (more + 1) b [] (.message d) b' final
  | unreadable {more : Nat} {b b' : List UInt8} {final : τ} {e : Failure}
      (hp : popped room b = (.error e, b')) : Awaited (more + 1) b [] (.failed (.own e)) b' final
  | late {more : Nat} {b b' : List UInt8} {final : τ} (hp : popped room b = (.ok none, b'))
      (hnow : deadline < final) :
      Awaited (more + 1) b [] (.failed (.own (.timedOut limit))) b' final
  | raised {more : Nat} {b b' : List UInt8} {now final : τ} {e : ε}
      (hp : popped room b = (.ok none, b')) (hnow : ¬deadline < now) :
      Awaited (more + 1) b [.ticked now (.error e)] (.failed (.tick e)) b' final
  | lost {more : Nat} {b b' : List UInt8} {now final : τ} {a : Except Fault (List UInt8)}
      (hp : popped room b = (.ok none, b')) (hnow : ¬deadline < now) (ha : waitsOn a = false) :
      Awaited (more + 1) b [.ticked now (.ok ()), .received h chunkSize a]
        (.failed (.own (loss a))) b' final
  | onward {more : Nat} {b b' b'' : List UInt8} {now final : τ} {a : Except Fault (List UInt8)}
      {log : List (Incident H τ ε)} {ending : Ending (Interruption ε)}
      (hp : popped room b = (.ok none, b')) (hnow : ¬deadline < now) (ha : waitsOn a = true)
      (hmore : Awaited more (b' ++ (Exchange.received h chunkSize a).octets) log ending b'' final) :
      Awaited (more + 1) b (.ticked now (.ok ()) :: .received h chunkSize a :: log) ending b'' final

end Awaited

variable [Sockets W H] [Clock W τ] [LT τ] [DecidableLT τ]

/-- A round whose tick does not fail, up to what its look at the socket finds. -/
theorem await_of_receive (more : Nat) {p : Patience W τ ε} {h : H} {c : Client H} {w w₁ w₂ : W}
    {b : List UInt8} {a : Except Fault (List UInt8)} (hp : popped c.room c.buffer = (.ok none, b))
    (hnow : ¬p.deadline < Clock.now w) (htick : p.tick w = (.ok (), w₁))
    (hr : Sockets.receive h chunkSize w₁ = (a, w₂)) :
    await p h (more + 1) c w =
      if waitsOn a then
        await p h more { c with buffer := b ++ (Exchange.received h chunkSize a).octets } w₂
      else (.failed (.own (loss a)), { c with buffer := b }, w₂) := by
  rcases a with f | _ | ⟨first, rest⟩
  · simp only [await, popMessage_eq, hp, if_neg hnow, htick, hr, waitsOn, loss, Exchange.octets,
      List.append_nil]
  · simp only [await, popMessage_eq, hp, if_neg hnow, htick, hr]
    rfl
  · simp only [await, popMessage_eq, hp, if_neg hnow, htick, hr]
    rfl

/-- What comes of a poll that goes on, with its log. -/
structure Awaits (limit : Quantity) (deadline : τ) (tick : W → Except ε Unit × W) (h : H)
    (rounds : Nat) (c : Client H) (r : Watched W H τ ε) (log : List (Incident H τ ε))
    (ending : Ending (Interruption ε)) (b : List UInt8) (w : W) : Prop where
  outcome : await ⟨limit, deadline, tick⟩ h rounds c r.world = (ending, { c with buffer := b }, w)
  watched : await ⟨limit, deadline, Watched.ticking tick⟩ h rounds c r =
    (ending, { c with buffer := b }, ⟨w, r.log ++ log⟩)
  awaited : Awaited c.room limit deadline h rounds c.buffer log ending b (Clock.now w)

theorem exists_awaits (limit : Quantity) (deadline : τ) (tick : W → Except ε Unit × W) (h : H)
    (rounds : Nat) (c : Client H) (r : Watched W H τ ε) :
    ∃ log ending b w, Awaits limit deadline tick h rounds c r log ending b w := by
  have hnow : ∀ r : Watched W H τ ε, Clock.now r = Clock.now r.world := fun _ => rfl
  induction rounds generalizing c r with
  | zero =>
    refine ⟨[], .unfinished, c.buffer, r.world, rfl, ?_, .spent⟩
    rw [List.append_nil]
    rfl
  | succ more ih =>
    rcases hp : popped c.room c.buffer with ⟨e | _ | d, b⟩
    · refine ⟨[], .failed (.own e), b, r.world, ?_, ?_, .unreadable hp⟩
      · simp only [await, popMessage_eq, hp]
      · simp only [await, popMessage_eq, hp, List.append_nil]
    · by_cases hlate : deadline < Clock.now r.world
      · refine ⟨[], .failed (.own (.timedOut limit)), b, r.world, ?_, ?_, .late hp hlate⟩
        · simp only [await, popMessage_eq, hp, if_pos hlate]
        · simp only [await, popMessage_eq, hp, hnow, if_pos hlate, List.append_nil]
      · rcases ht : tick r.world with ⟨e | ⟨⟩, w₁⟩
        · refine ⟨[.ticked _ (.error e)], .failed (.tick e), b, w₁, ?_, ?_, .raised hp hlate⟩
          · simp only [await, popMessage_eq, hp, if_neg hlate, ht]
          · simp only [await, popMessage_eq, hp, hnow, if_neg hlate, Watched.ticking_of_eq ht]
        · rcases hr : Sockets.receive h chunkSize w₁ with ⟨a, w₂⟩
          -- the same round in the network alone and in the one with the log
          have hround := await_of_receive more (p := ⟨limit, deadline, tick⟩) hp hlate ht hr
          have hwatched := await_of_receive more (p := ⟨limit, deadline, Watched.ticking tick⟩) hp
            hlate (Watched.ticking_of_eq ht) (Watched.receive_of_eq hr)
          cases ha : waitsOn a with
          | false =>
            rw [ha] at hround hwatched
            rw [List.append_assoc] at hwatched
            exact ⟨_, .failed (.own (loss a)), b, w₂, hround, hwatched, .lost hp hlate ha⟩
          | true =>
            rw [ha, if_pos rfl] at hround hwatched
            obtain ⟨log, ending, b', w, hmore⟩ :=
              ih { c with buffer := b ++ (Exchange.received h chunkSize a).octets }
                ⟨w₂, r.log ++ [.ticked (Clock.now r.world) (.ok ())] ++
                  [.received h chunkSize a]⟩
            refine ⟨_, ending, b', w, hround.trans hmore.outcome, hwatched.trans ?_,
              .onward hp hlate ha hmore.awaited⟩
            rw [hmore.watched, List.append_assoc, List.append_assoc]
            rfl
    · refine ⟨[], .message d, b, r.world, ?_, ?_, .message hp⟩
      · simp only [await, popMessage_eq, hp]
      · simp only [await, popMessage_eq, hp, List.append_nil]

omit [Sockets W H] [Clock W τ] [LT τ] [DecidableLT τ] in
/-- The ways in which a poll can go: its log, how it ends, and the buffer afterwards. What it can do with a
socket that has its timeout is a parameter. -/
inductive Course (Within : H → List (Incident H τ ε) → Ending (Interruption ε) → List UInt8 → τ → Prop)
    (limit interval : Quantity) (start : τ) (c : Client H) :
    List (Incident H τ ε) → Ending (Interruption ε) → List UInt8 → Prop where
  | immeasurable (hlimit : isMeasurable limit = false) :
      Course Within limit interval start c [] (.failed (.own (.fault immeasurable))) c.buffer
  | unconnected (hlimit : isMeasurable limit = true) (hs : c.socket = none) :
      Course Within limit interval start c [] (.failed (.own (.notConnected .setTimeout))) c.buffer
  | refused {h : H} {f : Fault} (hlimit : isMeasurable limit = true) (hs : c.socket = some h) :
      Course Within limit interval start c [.timed start h interval (.error f)]
        (.failed (.own (.fault f))) c.buffer
  | unfinished {h : H} {log : List (Incident H τ ε)} {b : List UInt8} {final : τ}
      (hlimit : isMeasurable limit = true) (hs : c.socket = some h)
      (hwithin : Within h log .unfinished b final) :
      Course Within limit interval start c (.timed start h interval (.ok ()) :: log) .unfinished b
  | restored {h : H} {log : List (Incident H τ ε)} {ending : Ending (Interruption ε)}
      {b : List UInt8} {final : τ} (hlimit : isMeasurable limit = true) (hs : c.socket = some h)
      (hends : ending ≠ .unfinished) (hwithin : Within h log ending b final) :
      Course Within limit interval start c
        (.timed start h interval (.ok ()) :: log ++ [.timed final h c.timeout (.ok ())]) ending b
  /-- A message that was taken off the buffer is lost. -/
  | unrestored {h : H} {f : Fault} {log : List (Incident H τ ε)} {ending : Ending (Interruption ε)}
      {b : List UInt8} {final : τ} (hlimit : isMeasurable limit = true) (hs : c.socket = some h)
      (hends : ending ≠ .unfinished) (hwithin : Within h log ending b final) :
      Course Within limit interval start c
        (.timed start h interval (.ok ()) :: log ++ [.timed final h c.timeout (.error f)])
        (.failed (.own (.fault f))) b

omit [Sockets W H] [Clock W τ] [LT τ] [DecidableLT τ] in
theorem Course.imp
    {Within Within' : H → List (Incident H τ ε) → Ending (Interruption ε) → List UInt8 → τ → Prop}
    {limit interval : Quantity} {start : τ} {c : Client H} {log : List (Incident H τ ε)}
    {ending : Ending (Interruption ε)} {b : List UInt8}
    (hcourse : Course Within limit interval start c log ending b)
    (himp : ∀ h inner ending b final, arrived (exchanges inner) = arrived (exchanges log) →
      Within h inner ending b final → Within' h inner ending b final) :
    Course Within' limit interval start c log ending b := by
  cases hcourse with
  | immeasurable hlimit => exact .immeasurable hlimit
  | unconnected hlimit hs => exact .unconnected hlimit hs
  | refused hlimit hs => exact .refused hlimit hs
  | unfinished hlimit hs hwithin => exact .unfinished hlimit hs (himp _ _ _ _ _ rfl hwithin)
  | restored hlimit hs hends hwithin =>
    exact .restored hlimit hs hends (himp _ _ _ _ _ (by simp [Exchange.octets]) hwithin)
  | unrestored hlimit hs hends hwithin =>
    exact .unrestored hlimit hs hends (himp _ _ _ _ _ (by simp [Exchange.octets]) hwithin)

variable [Add τ]

/-- A poll and the same poll with its log. -/
structure Polls (rounds : Nat) (tick : W → Except ε Unit × W) (limit : Option Quantity)
    (interval : Quantity) (c : Client H) (w : W) (log : List (Incident H τ ε))
    (ending : Ending (Interruption ε)) (b : List UInt8) (w' : W) : Prop where
  outcome : poll rounds tick limit interval c w = (ending, { c with buffer := b }, w')
  watched : poll rounds (Watched.ticking tick) limit interval c ⟨w, []⟩ =
    (ending, { c with buffer := b }, ⟨w', log⟩)

theorem exists_course (rounds : Nat) (tick : W → Except ε Unit × W) (limit : Option Quantity)
    (interval : Quantity) (c : Client H) (w : W) :
    ∃ log ending b w', Polls rounds tick limit interval c w log ending b w' ∧
      Course (fun h => Awaited c.room (limit.getD c.timeout)
          (Clock.now w + Clock.span W (limit.getD c.timeout)) h rounds c.buffer)
        (limit.getD c.timeout) interval (Clock.now w) c log ending b := by
  obtain ⟨host, port, timeout, room, socket, buffer⟩ := c
  cases hlimit : isMeasurable (limit.getD timeout) with
  | false =>
    refine ⟨[], .failed (.own (.fault immeasurable)), buffer, w, ⟨?_, ?_⟩, .immeasurable hlimit⟩
    · simp only [poll, hlimit, Bool.false_eq_true, if_false]
    · simp only [poll, hlimit, Bool.false_eq_true, if_false]
  | true =>
    cases socket with
    | none =>
      refine ⟨[], .failed (.own (.notConnected .setTimeout)), buffer, w, ⟨?_, ?_⟩,
        .unconnected hlimit rfl⟩
      · simp only [poll, hlimit, if_true]
      · simp only [poll, hlimit, if_true]
    | some h =>
      rcases ht : Sockets.setTimeout h interval w with ⟨f | ⟨⟩, w₁⟩
      · have htimed := Watched.setTimeout_of_eq (r := (⟨w, []⟩ : Watched W H τ ε)) ht
        refine ⟨[.timed (Clock.now w) h interval (.error f)], .failed (.own (.fault f)), buffer, w₁,
          ⟨?_, ?_⟩, .refused hlimit rfl⟩
        · simp only [poll, hlimit, if_true, ht]
        · simp only [poll, hlimit, if_true, htimed, List.nil_append]
      · have htimed := Watched.setTimeout_of_eq (r := (⟨w, []⟩ : Watched W H τ ε)) ht
        rw [List.nil_append] at htimed
        obtain ⟨log, ending, b, w₂, hawait⟩ :=
          exists_awaits (limit.getD timeout) (Clock.now w + Clock.span W (limit.getD timeout)) tick h
            rounds ⟨host, port, timeout, room, some h, buffer⟩
            ⟨w₁, [.timed (Clock.now w) h interval (.ok ())]⟩
        have hnow : Clock.now (⟨w, []⟩ : Watched W H τ ε) = Clock.now w := rfl
        have hspan : Clock.span (Watched W H τ ε) = Clock.span W := rfl
        have houtcome := hawait.outcome
        have hwatched := hawait.watched
        cases ending with
        | unfinished =>
          refine ⟨_, .unfinished, b, w₂, ⟨?_, ?_⟩, .unfinished hlimit rfl hawait.awaited⟩
          · simp only [poll, hlimit, if_true, ht, houtcome]
          · simp only [poll, hlimit, if_true, htimed, hnow, hspan, hwatched, List.singleton_append]
        | message d | failed e =>
          rcases hrestore : Sockets.setTimeout h timeout w₂ with ⟨f | ⟨⟩, w₃⟩
          · refine ⟨_, .failed (.own (.fault f)), b, w₃, ⟨?_, ?_⟩,
              .unrestored hlimit rfl ?_ hawait.awaited⟩
            · simp only [poll, hlimit, if_true, ht, houtcome, restore, hrestore]
            · simp only [poll, hlimit, if_true, htimed, hnow, hspan, hwatched, restore,
                Watched.setTimeout_of_eq (r := ⟨w₂, _⟩) hrestore, List.singleton_append]
            · intro hends
              cases hends
          · refine ⟨_, _, b, w₃, ⟨?_, ?_⟩, .restored hlimit rfl ?_ hawait.awaited⟩
            · simp only [poll, hlimit, if_true, ht, houtcome, restore, hrestore]
            · simp only [poll, hlimit, if_true, htimed, hnow, hspan, hwatched, restore,
                Watched.setTimeout_of_eq (r := ⟨w₂, _⟩) hrestore, List.singleton_append]
            · intro hends
              cases hends

end Client

end LiveConsole.Net
