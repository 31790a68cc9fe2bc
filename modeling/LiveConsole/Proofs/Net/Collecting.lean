import LiveConsole.Net.Client
import LiveConsole.Proofs.Net.Frames
import LiveConsole.Proofs.Net.Recording

/-!
# Collecting a message

A client waits for a message in two ways: it reads until one is complete, or it also calls its server
between the reads. Either way it takes lines off one buffer and puts what it receives behind what is
there. All that a wait can do to the buffer is derived from that.
-/

namespace LiveConsole.Net
set_option autoImplicit false

variable {W H ε τ : Type}

/-- The octets that a call brought. -/
def Exchange.octets : Exchange H → List UInt8
  | .received _ _ (.ok chunk) => chunk
  | _ => []

def arrived (xs : List (Exchange H)) : List UInt8 := xs.flatMap Exchange.octets

@[simp] theorem arrived_nil : arrived ([] : List (Exchange H)) = [] := rfl

@[simp] theorem arrived_cons (x : Exchange H) (xs : List (Exchange H)) :
    arrived (x :: xs) = x.octets ++ arrived xs := rfl

@[simp] theorem arrived_append (xs ys : List (Exchange H)) :
    arrived (xs ++ ys) = arrived xs ++ arrived ys := List.flatMap_append

/-- Whether a call asked for octets. -/
def Exchange.asks : Exchange H → Bool
  | .received _ _ _ => true
  | _ => false

/-- Whether a socket refused a timeout. -/
def Exchange.refuses : Exchange H → Bool
  | .timed _ (.error _) => true
  | _ => false

theorem Exchange.octets_of_not_asks {x : Exchange H} (hx : x.asks = false) : x.octets = [] := by
  cases x with
  | received => contradiction
  | accepted | timed | sent | closed => rfl

section Silence

variable {xs before after : List (Exchange H)}

theorem arrived_of_silent (h : ∀ x ∈ xs, x.asks = false) : arrived xs = [] := by
  induction xs with
  | nil => rfl
  | cons x xs ih =>
    obtain ⟨hx, hxs⟩ := List.forall_mem_cons.mp h
    rw [arrived_cons, Exchange.octets_of_not_asks hx, ih hxs, List.nil_append]

theorem countP_asks_of_silent (h : ∀ x ∈ xs, x.asks = false) : xs.countP Exchange.asks = 0 := by
  rw [List.countP_eq_zero]
  intro x hx
  rw [h x hx]
  exact Bool.false_ne_true

theorem arrived_between (hbefore : ∀ x ∈ before, x.asks = false)
    (hafter : ∀ x ∈ after, x.asks = false) : arrived (before ++ xs ++ after) = arrived xs := by
  rw [arrived_append, arrived_append, arrived_of_silent hbefore, arrived_of_silent hafter,
    List.nil_append, List.append_nil]

theorem countP_asks_between (hbefore : ∀ x ∈ before, x.asks = false)
    (hafter : ∀ x ∈ after, x.asks = false) :
    (before ++ xs ++ after).countP Exchange.asks = xs.countP Exchange.asks := by
  rw [List.countP_append, List.countP_append, countP_asks_of_silent hbefore,
    countP_asks_of_silent hafter, Nat.zero_add, Nat.add_zero]

end Silence

namespace Client

/-- Every complete line is a message that there is room for. -/
def Legible (room : Nat) (stream : List UInt8) : Prop :=
  ∀ p ∈ frames stream, ∃ d, message? room p = .ok (some d)

instance (room : Nat) : DecidablePred (Legible room) := fun stream =>
  decidable_of_iff (∀ p ∈ frames stream, (message? room p).toOption.join.isSome = true) <| by
    refine forall₂_congr fun p _ => ?_
    rcases message? room p with e | _ | d
    · simp [Except.toOption]
    · simp [Except.toOption]
    · simp [Except.toOption]

variable {room : Nat}

theorem frames_grow (stream more : List UInt8) : frames stream <+: frames (stream ++ more) := by
  obtain ⟨ps, rest, hps, hrest, rfl⟩ := exists_eq_joined_append stream
  rw [frames_joined hps hrest, List.append_assoc, frames_joined_append hps]
  exact List.prefix_append ps _

theorem Legible.left {stream more : List UInt8} (h : Legible room (stream ++ more)) :
    Legible room stream :=
  fun p hp => h p ((frames_grow stream more).subset hp)

theorem Legible.line {line rest : List UInt8} (h : Legible room (line ++ newline :: rest))
    (hline : newline ∉ line) : ∃ d, message? room line = .ok (some d) :=
  h line (frames_line hline rest ▸ List.mem_cons_self)

/-- What is taken off a buffer, and what stays. -/
def popped (room : Nat) (buffer : List UInt8) : Except Failure (Option Datum) × List UInt8 :=
  match splitLine? buffer with
  | none => (.ok none, buffer)
  | some (line, rest) => (message? room line, rest)

theorem popMessage_eq (c : Client H) :
    c.popMessage = ((popped c.room c.buffer).1, { c with buffer := (popped c.room c.buffer).2 }) := by
  rw [popMessage, popped]
  cases splitLine? c.buffer with
  | none => rfl
  | some parts => rfl

/-- Either a message is taken, or no line is complete. -/
theorem popped_cases {buffer later : List UInt8} (h : Legible room (buffer ++ later)) :
    (newline ∉ buffer ∧ popped room buffer = (.ok none, buffer)) ∨
    ∃ line rest d, newline ∉ line ∧ buffer = line ++ newline :: rest ∧
      message? room line = .ok (some d) ∧ popped room buffer = (.ok (some d), rest) := by
  rcases splitLine?_cases buffer with ⟨hn, hsplit⟩ | ⟨line, rest, hline, rfl, hsplit⟩
  · refine .inl ⟨hn, ?_⟩
    rw [popped, hsplit]
  · obtain ⟨d, hd⟩ := h.left.line hline
    refine .inr ⟨line, rest, d, hline, rfl, hd, ?_⟩
    rw [popped, hsplit]
    exact congrArg (·, rest) hd

theorem newline_not_mem_of_popped {buffer later rest : List UInt8}
    (h : Legible room (buffer ++ later)) (hp : popped room buffer = (.ok none, rest)) :
    newline ∉ buffer ∧ rest = buffer := by
  rcases popped_cases h with ⟨hn, hp'⟩ | ⟨line, rest', d, _, _, _, hp'⟩
  · rw [hp'] at hp
    exact ⟨hn, (Prod.mk.inj hp).2.symm⟩
  · rw [hp'] at hp
    cases hp

theorem popped_ne_error {buffer later rest : List UInt8} {e : Failure}
    (h : Legible room (buffer ++ later)) : popped room buffer ≠ (.error e, rest) := by
  intro hp
  rcases popped_cases h with ⟨_, hp'⟩ | ⟨_, _, _, _, _, _, hp'⟩
  · rw [hp'] at hp
    cases hp
  · rw [hp'] at hp
    cases hp

def Ending.own : Ending Failure → Ending (Interruption ε)
  | .message d => .message d
  | .failed e => .failed (.own e)
  | .unfinished => .unfinished

/-- The ways in which a wait on a socket can go: the rounds it may take, the buffer before, the calls
that it makes, how it ends, and the buffer afterwards. -/
inductive Collected (room : Nat) (socket : Option H) :
    Nat → List UInt8 → List (Exchange H) → Ending (Interruption ε) → List UInt8 → Prop where
  | spent {b : List UInt8} : Collected room socket 0 b [] .unfinished b
  | message {n : Nat} {b b' : List UInt8} {d : Datum} (hp : popped room b = (.ok (some d), b')) :
      Collected room socket (n + 1) b [] (.message d) b'
  | unreadable {n : Nat} {b b' : List UInt8} {e : Failure} {f : Interruption ε}
      (hp : popped room b = (.error e, b')) : Collected room socket (n + 1) b [] (.failed f) b'
  /-- The wait is given up before octets are asked for. -/
  | left {n : Nat} {b b' : List UInt8} {f : Interruption ε} (hp : popped room b = (.ok none, b')) :
      Collected room socket (n + 1) b [] (.failed f) b'
  | lost {n : Nat} {b b' : List UInt8} {h : H} {x : Exchange H} {f : Interruption ε}
      (hp : popped room b = (.ok none, b')) (hs : socket = some h)
      (hx : ∃ a, x = .received h chunkSize a) (hnone : x.octets = []) :
      Collected room socket (n + 1) b [x] (.failed f) b'
  | onward {n : Nat} {b b' b'' : List UInt8} {h : H} {x : Exchange H} {xs : List (Exchange H)}
      {ending : Ending (Interruption ε)} (hp : popped room b = (.ok none, b')) (hs : socket = some h)
      (hx : ∃ a, x = .received h chunkSize a)
      (hmore : Collected room socket n (b' ++ x.octets) xs ending b'') :
      Collected room socket (n + 1) b (x :: xs) ending b''

/-- What became of the octets that were there and those that came, where every complete line is a
message. -/
inductive Drawn (room : Nat) (octets : List UInt8) : Ending (Interruption ε) → List UInt8 → Prop where
  | message {line rest : List UInt8} {d : Datum} (hline : newline ∉ line)
      (ho : octets = line ++ newline :: rest) (hd : message? room line = .ok (some d)) :
      Drawn room octets (.message d) rest
  | failed {f : Interruption ε} (hn : newline ∉ octets) : Drawn room octets (.failed f) octets
  | unfinished : Drawn room octets .unfinished octets

namespace Collected

variable {socket : Option H} {n : Nat} {b b' : List UInt8} {xs : List (Exchange H)}
  {ending : Ending (Interruption ε)}

theorem asked (hc : Collected room socket n b xs ending b') :
    ∀ x ∈ xs, ∃ h a, socket = some h ∧ x = .received h chunkSize a := by
  induction hc with
  | spent | message | unreadable | left => simp
  | lost hp hs hx hnone =>
    obtain ⟨a, rfl⟩ := hx
    simpa using hs
  | onward hp hs hx hmore ih =>
    obtain ⟨a, rfl⟩ := hx
    exact List.forall_mem_cons.mpr ⟨⟨_, a, hs, rfl⟩, ih⟩

/-- Only a wait that has asked in every one of its rounds is unfinished. -/
theorem countP_asks_of_unfinished (hc : Collected room socket n b xs ending b')
    (hu : ending = .unfinished) : xs.countP Exchange.asks = n := by
  induction hc with
  | spent => rfl
  | message | unreadable | left | lost => contradiction
  | onward hp hs hx hmore ih =>
    obtain ⟨a, rfl⟩ := hx
    rw [List.countP_cons_of_pos rfl, ih hu]

/-- While a line is complete, a message is returned and nothing is asked for. -/
theorem message_of_newline (hc : Collected room socket n b xs ending b')
    (hlegible : Legible room (b ++ arrived xs)) (hn : newline ∈ b) (hrounds : n ≠ 0) :
    xs = [] ∧ ∃ d, ending = .message d := by
  cases hc with
  | spent => contradiction
  | message => exact ⟨rfl, _, rfl⟩
  | unreadable hp => exact (popped_ne_error hlegible hp).elim
  | left hp | lost hp | onward hp => exact absurd hn (newline_not_mem_of_popped hlegible hp).1

theorem drawn (hc : Collected room socket n b xs ending b') (hlegible : Legible room (b ++ arrived xs)) :
    Drawn room (b ++ arrived xs) ending b' := by
  induction hc with
  | spent =>
    rw [arrived_nil, List.append_nil]
    exact .unfinished
  | @message n b b' d hp =>
    rw [arrived_nil, List.append_nil] at hlegible ⊢
    have hend : Legible room (b ++ []) := by rwa [List.append_nil]
    rcases popped_cases hend with
      ⟨_, hp'⟩ | ⟨line, rest, d', hline, hb, hd, hp'⟩
    · rw [hp'] at hp
      cases hp
    · rw [hp'] at hp
      obtain ⟨hd', rfl⟩ := Prod.mk.inj hp
      obtain rfl := Option.some.inj (Except.ok.inj hd')
      exact .message hline hb hd
  | unreadable hp => exact (popped_ne_error hlegible hp).elim
  | left hp =>
    obtain ⟨hn, rfl⟩ := newline_not_mem_of_popped hlegible hp
    rw [arrived_nil, List.append_nil]
    exact .failed hn
  | lost hp hs hx hnone =>
    obtain ⟨hn, rfl⟩ := newline_not_mem_of_popped hlegible hp
    rw [arrived_cons, hnone, arrived_nil, List.append_nil, List.append_nil]
    exact .failed hn
  | onward hp hs hx hmore ih =>
    obtain ⟨_, rfl⟩ := newline_not_mem_of_popped hlegible hp
    rw [arrived_cons, ← List.append_assoc] at hlegible ⊢
    exact ih hlegible

end Collected

section Waits

variable {c : Client H} {r r' : Recorded W H} {n : Nat} {b : List UInt8}
  {ending : Ending (Interruption ε)}

/-- The outcome of a wait that begins with a client and a record. -/
def Collects (c : Client H) (r : Recorded W H) (n : Nat)
    (outcome : Ending (Interruption ε) × Client H × Recorded W H) : Prop :=
  ∃ xs b, Collected c.room c.socket n c.buffer xs outcome.1 b ∧ outcome.2.1 = { c with buffer := b } ∧
    outcome.2.2.exchanges = r.exchanges ++ xs

theorem Collects.silent (hc : Collected c.room c.socket n c.buffer [] ending b)
    (hr : r'.exchanges = r.exchanges) : Collects c r n (ending, { c with buffer := b }, r') :=
  ⟨[], b, hc, rfl, by rw [hr, List.append_nil]⟩

variable {h : H} {a : Except Fault (List UInt8)} {w : W} {f : Interruption ε}

theorem Collects.lost (hp : popped c.room c.buffer = (.ok none, b)) (hs : c.socket = some h)
    (hnone : (Exchange.received h chunkSize a).octets = []) :
    Collects c r (n + 1)
      (.failed f, { c with buffer := b }, ⟨w, r.exchanges ++ [.received h chunkSize a]⟩) :=
  ⟨_, b, .lost hp hs ⟨a, rfl⟩ hnone, rfl, rfl⟩

/-- A wait that goes on after something was asked for. -/
theorem Collects.onward {outcome : Ending (Interruption ε) × Client H × Recorded W H}
    (hp : popped c.room c.buffer = (.ok none, b)) (hs : c.socket = some h)
    (hmore : Collects { c with buffer := b ++ (Exchange.received h chunkSize a).octets }
      ⟨w, r.exchanges ++ [.received h chunkSize a]⟩ n outcome) : Collects c r (n + 1) outcome := by
  obtain ⟨xs, b', hcollected, hclient, hexchanges⟩ := hmore
  refine ⟨_ :: xs, b', .onward hp hs ⟨a, rfl⟩ hcollected, hclient, ?_⟩
  rw [hexchanges, List.append_assoc]
  rfl

variable [Sockets W H]

theorem collects_readMessage (rounds : Nat) (c : Client H) (r : Recorded W H) :
    Collects (ε := ε) c r rounds
      ((readMessage rounds c r).1.own, (readMessage rounds c r).2) := by
  induction rounds generalizing c r with
  | zero => exact .silent .spent rfl
  | succ more ih =>
    rcases hp : popped c.room c.buffer with ⟨e | _ | d, b⟩
    · simp only [readMessage, popMessage_eq, hp]
      exact .silent (.unreadable hp) rfl
    · obtain ⟨host, port, timeout, room, _ | h, buffer⟩ := c
      · simp only [readMessage, popMessage_eq, hp]
        exact .silent (.left hp) rfl
      · rcases hr : Sockets.receive h chunkSize r.world with ⟨f | _ | ⟨first, rest⟩, w⟩
        · simp only [readMessage, popMessage_eq, hp, Recorded.receive_of_eq hr]
          exact .lost (a := .error f) hp rfl rfl
        · simp only [readMessage, popMessage_eq, hp, Recorded.receive_of_eq hr]
          exact .lost (a := .ok []) hp rfl rfl
        · simp only [readMessage, popMessage_eq, hp, Recorded.receive_of_eq hr]
          exact .onward (a := .ok (first :: rest)) (w := w) hp rfl (ih _ _)
    · simp only [readMessage, popMessage_eq, hp]
      exact .silent (.message hp) rfl

variable [Clock W τ]

instance : Clock (Recorded W H) τ where
  now r := Clock.now r.world
  span := Clock.span W
  sleep t r := ⟨Clock.sleep t r.world, r.exchanges⟩

variable [LT τ] [DecidableLT τ]

/-- A tick has a connection of its own, whose calls are not those of the client. -/
theorem collects_await {p : Patience (Recorded W H) τ ε}
    (htick : ∀ r, (p.tick r).2.exchanges = r.exchanges) (rounds : Nat) (c : Client H)
    (hs : c.socket = some h) (r : Recorded W H) : Collects c r rounds (await p h rounds c r) := by
  induction rounds generalizing c r with
  | zero => exact .silent .spent rfl
  | succ more ih =>
    rcases hp : popped c.room c.buffer with ⟨e | _ | d, b⟩
    · simp only [await, popMessage_eq, hp]
      exact .silent (.unreadable hp) rfl
    · by_cases hlate : p.deadline < Clock.now r
      · simp only [await, popMessage_eq, hp, if_pos hlate]
        exact .silent (.left hp) rfl
      · have hkept := htick r
        rcases ht : p.tick r with ⟨e | u, r'⟩
        · simp only [await, popMessage_eq, hp, if_neg hlate, ht]
          rw [ht] at hkept
          exact .silent (.left hp) hkept
        · rw [ht] at hkept
          rcases hr : Sockets.receive h chunkSize r'.world with ⟨f | _ | ⟨first, rest⟩, w⟩
          · have hrec := Recorded.receive_of_eq hr
            rw [hkept] at hrec
            simp only [await, popMessage_eq, hp, if_neg hlate, ht, hrec]
            cases hf : f.isA .timeoutError with
            | true =>
              rw [if_pos rfl]
              refine .onward (a := .error f) (w := w) hp hs ?_
              simpa only [Exchange.octets, List.append_nil] using ih { c with buffer := b } hs _
            | false => exact .lost (a := .error f) hp hs rfl
          · have hrec := Recorded.receive_of_eq hr
            rw [hkept] at hrec
            simp only [await, popMessage_eq, hp, if_neg hlate, ht, hrec]
            exact .lost (a := .ok []) hp hs rfl
          · have hrec := Recorded.receive_of_eq hr
            rw [hkept] at hrec
            simp only [await, popMessage_eq, hp, if_neg hlate, ht, hrec]
            exact .onward (a := .ok (first :: rest)) (w := w) hp hs
              (ih { c with buffer := b ++ first :: rest } hs _)
    · simp only [await, popMessage_eq, hp]
      exact .silent (.message hp) rfl

end Waits

/-- The ways in which a poll can go: the calls that it makes, how it ends, and the buffer afterwards. -/
inductive Polled (room : Nat) (socket : Option H) (n : Nat) (b : List UInt8) :
    List (Exchange H) → Ending (Interruption ε) → List UInt8 → Prop where
  | immeasurable : Polled room socket n b [] (.failed (.own (.fault immeasurable))) b
  | unconnected (hs : socket = none) :
      Polled room socket n b [] (.failed (.own (.notConnected .setTimeout))) b
  | refused {h : H} {f : Fault} (hs : socket = some h) :
      Polled room socket n b [.timed h (.error f)] (.failed (.own (.fault f))) b
  | unfinished {h : H} {xs : List (Exchange H)} {b' : List UInt8} (hs : socket = some h)
      (hc : Collected (ε := ε) room socket n b xs .unfinished b') :
      Polled room socket n b (.timed h (.ok ()) :: xs) .unfinished b'
  | restored {h : H} {xs : List (Exchange H)} {ending : Ending (Interruption ε)} {b' : List UInt8}
      (hs : socket = some h) (hc : Collected room socket n b xs ending b') :
      Polled room socket n b (.timed h (.ok ()) :: xs ++ [.timed h (.ok ())]) ending b'
  /-- A message that was taken off the buffer is lost. -/
  | unrestored {h : H} {f : Fault} {xs : List (Exchange H)} {ending : Ending (Interruption ε)}
      {b' : List UInt8} (hs : socket = some h) (hc : Collected room socket n b xs ending b') :
      Polled room socket n b (.timed h (.ok ()) :: xs ++ [.timed h (.error f)])
        (.failed (.own (.fault f))) b'

variable [Sockets W H] [Clock W τ] [LT τ] [DecidableLT τ] [Add τ]

theorem polled (rounds : Nat) (tick : Recorded W H → Except ε Unit × Recorded W H)
    (htick : ∀ r, (tick r).2.exchanges = r.exchanges) (limit : Option Datum.Quantity)
    (interval : Datum.Quantity) (c : Client H) (r : Recorded W H) :
    ∃ xs b, Polled c.room c.socket rounds c.buffer xs (poll rounds tick limit interval c r).1 b ∧
      (poll rounds tick limit interval c r).2.1 = { c with buffer := b } ∧
      (poll rounds tick limit interval c r).2.2.exchanges = r.exchanges ++ xs := by
  by_cases hlimit : isMeasurable (limit.getD c.timeout) = true
  case neg =>
    simp only [poll, if_neg hlimit]
    exact ⟨[], c.buffer, .immeasurable, rfl, (List.append_nil _).symm⟩
  obtain ⟨host, port, timeout, room, _ | h, buffer⟩ := c
  · simp only [poll, if_pos hlimit]
    exact ⟨[], buffer, .unconnected rfl, rfl, (List.append_nil _).symm⟩
  · rcases ht : Sockets.setTimeout h interval r.world with ⟨f | ⟨⟩, w⟩
    · simp only [poll, if_pos hlimit, Recorded.setTimeout_of_eq ht]
      exact ⟨_, buffer, .refused rfl, rfl, rfl⟩
    · simp only [poll, if_pos hlimit, Recorded.setTimeout_of_eq ht]
      generalize hpatience : Patience.mk (limit.getD timeout) _ tick = p
      obtain ⟨xs, b, hcollected, hclient, hexchanges⟩ :=
        collects_await (p := p) (hpatience ▸ htick) rounds ⟨host, port, timeout, room, some h, buffer⟩
          rfl ⟨w, r.exchanges ++ [.timed h (.ok ())]⟩
      rcases hawait : await p h rounds ⟨host, port, timeout, room, some h, buffer⟩
        ⟨w, r.exchanges ++ [.timed h (.ok ())]⟩ with ⟨ending, c', r'⟩
      simp only [hawait] at hcollected hclient hexchanges ⊢
      obtain rfl : c' = ⟨host, port, timeout, room, some h, b⟩ := hclient
      have hrecord : r'.exchanges = r.exchanges ++ .timed h (.ok ()) :: xs := by
        rw [hexchanges, List.append_assoc]
        rfl
      cases ending with
      | unfinished => exact ⟨_, b, .unfinished rfl hcollected, rfl, hrecord⟩
      | message d | failed e =>
        rcases hrestore : Sockets.setTimeout h timeout r'.world with ⟨f | ⟨⟩, w'⟩
        · simp only [restore, Recorded.setTimeout_of_eq hrestore]
          refine ⟨_, b, .unrestored rfl hcollected, rfl, ?_⟩
          rw [hrecord, List.append_assoc]
        · simp only [restore, Recorded.setTimeout_of_eq hrestore]
          refine ⟨_, b, .restored rfl hcollected, rfl, ?_⟩
          rw [hrecord, List.append_assoc]

end Client
end LiveConsole.Net
