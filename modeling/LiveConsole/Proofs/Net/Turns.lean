import LiveConsole.Proofs.Net.Listening

/-!
# Turns of a listener

A listener is called again and again, to take a client or to hand out a line. Each call with its
answer and the calls on sockets that it made is a turn. What a turn can be depends on whether a
client is held, and on whether a line is complete.
-/

namespace LiveConsole.Net
set_option autoImplicit false

variable {W H : Type}

inductive Move where
  | accept
  | receive

inductive Answer where
  | accepted (answer : Except Fault Bool)
  | line (answer : Except Fault (Option Text))

structure Turn (H : Type) where
  answer : Answer
  exchanges : List (Exchange H)

namespace Listener

variable [Sockets W H]

def call (m : Move) (l : Listener H) (w : W) : Answer × Listener H × W :=
  match m with
  | .accept => (.accepted (l.acceptIfNone w).1, (l.acceptIfNone w).2)
  | .receive => (.line (l.receiveLine w).1, (l.receiveLine w).2)

/-- Makes moves in their order. -/
def calls : List Move → Listener H → W → List Answer × Listener H × W
  | [], l, w => ([], l, w)
  | m :: more, l, w =>
    match call m l w with
    | (a, l, w) => (a :: (calls more l w).1, (calls more l w).2)

/-- Makes a move with a fresh record. -/
def turn (m : Move) (l : Listener H) (w : W) : Turn H × Listener H × W :=
  match call m l (Recorded.mk w ([] : List (Exchange H))) with
  | (a, l, r) => (⟨a, r.exchanges⟩, l, r.world)

/-- Makes moves in their order, each with a fresh record. -/
def play : List Move → Listener H → W → List (Turn H) × Listener H × W
  | [], l, w => ([], l, w)
  | m :: more, l, w =>
    match turn m l w with
    | (t, l, w) => (t :: (play more l w).1, (play more l w).2)

end Listener

namespace Listener

variable [Sockets W H] (l : Listener H) (r : Recorded W H)

open Recorded (plain)

theorem plain_dropClient : plain (dropClient l r) = dropClient l r.world := by
  cases hc : l.client with
  | none => simp [dropClient, hc, plain]
  | some h =>
    rcases hclose : Sockets.close h r.world with ⟨a, w⟩
    have hrec := Recorded.close_of_eq hclose
    cases a with
    | ok u => simp [dropClient, hc, hclose, hrec, plain]
    | error f => cases hf : f.isA .systemError <;> simp [dropClient, hc, hclose, hrec, hf, plain]

theorem plain_dropping_dropClient (n : Notice) :
    plain (dropping (dropClient l (Sockets.note n r))) =
      dropping (dropClient l (Sockets.note n r.world)) := by
  have hdrop := plain_dropClient l (Sockets.note n r)
  rw [Recorded.world_note] at hdrop
  rw [← hdrop]
  rfl

theorem plain_takeChunk (chunk : List UInt8) :
    plain (takeChunk l chunk r) = takeChunk l chunk r.world := by
  unfold takeChunk
  rcases popLine { l with buffer := l.buffer ++ chunk } with ⟨_ | line, l'⟩
  · by_cases hlt : l'.buffer.length > l'.settings.maxLine
    · simp only [if_pos hlt]
      exact plain_dropping_dropClient l' r _
    · simp only [if_neg hlt]
      rfl
  · rfl

theorem plain_receiveLine : plain (receiveLine l r) = receiveLine l r.world := by
  unfold receiveLine
  cases l.client with
  | none => rfl
  | some h =>
    rcases popLine l with ⟨_ | line, l'⟩
    · rcases hr : Sockets.receive h l'.settings.recvSize r.world with ⟨a, w⟩
      have hrec := Recorded.receive_of_eq hr
      rcases a with f | chunk
      · cases hf : f.isA .connectionError with
        | true =>
          simp only [receiveChunk, hr, hrec, hf]
          exact plain_dropping_dropClient l' _ _
        | false => cases hs : f.isA .systemError <;> simp [receiveChunk, hr, hrec, hf, hs, plain]
      · cases chunk with
        | nil =>
          simp only [receiveChunk, hr, hrec]
          exact plain_dropping_dropClient l' _ _
        | cons b bs =>
          simp only [receiveChunk, hr, hrec]
          exact plain_takeChunk l' _ _
    · rfl

theorem plain_acceptIfNone : plain (acceptIfNone l r) = acceptIfNone l r.world := by
  cases hc : l.client with
  | some h => rw [acceptIfNone_of_client hc, acceptIfNone_of_client hc, plain]
  | none =>
    cases hs : l.server with
    | none => simp [acceptIfNone, hs, plain]
    | some server =>
      rcases hr : Sockets.accept server r.world with ⟨f | ⟨h, e⟩, w⟩
      · rw [acceptIfNone_of_nobody hs hc hr,
          acceptIfNone_of_nobody hs hc (Recorded.accept_of_eq hr), plain]
      · have hrec := Recorded.accept_of_eq hr
        rcases ht : Sockets.setTimeout h (timeout l.settings) w with ⟨f | u, w'⟩
        · have htrec := Recorded.setTimeout_of_eq
            (r := ⟨w, r.exchanges ++ [.accepted server (.ok (h, e))]⟩) ht
          cases hf : f.isA .systemError with
          | false =>
            rw [acceptIfNone_of_untimed hs hc hr ht hf,
              acceptIfNone_of_untimed hs hc hrec htrec hf, plain]
          | true =>
            rcases hclose : Sockets.close h (Sockets.note (.clientUnusable e f) w') with ⟨c, w''⟩
            have hcrec := Recorded.close_of_eq (r := Sockets.note (.clientUnusable e f)
              ⟨w', r.exchanges ++ [.accepted server (.ok (h, e))] ++ [.timed h (.error f)]⟩) hclose
            rw [acceptIfNone_of_unusable hs hc hr ht hf hclose,
              acceptIfNone_of_unusable hs hc hrec htrec hf hcrec, plain]
        · have htrec := Recorded.setTimeout_of_eq
            (r := ⟨w, r.exchanges ++ [.accepted server (.ok (h, e))]⟩) ht
          rw [acceptIfNone_of_caller hs hc hr ht, acceptIfNone_of_caller hs hc hrec htrec, plain]
          rfl

theorem plain_call (m : Move) : plain (call m l r) = call m l r.world := by
  cases m with
  | accept =>
    rw [call, call, ← plain_acceptIfNone l r]
    rfl
  | receive =>
    rw [call, call, ← plain_receiveLine l r]
    rfl

/-- Turns are the calls in the network itself. -/
theorem map_answer_play (moves : List Move) (w : W) :
    ((play moves l w).1.map Turn.answer, (play moves l w).2) = calls moves l w := by
  induction moves generalizing l w with
  | nil => rfl
  | cons m more ih =>
    have hcall := plain_call l (Recorded.mk w []) m
    rw [calls, ← hcall]
    exact congrArg (fun x => ((turn m l w).1.answer :: x.1, x.2)) (ih _ _)

end Listener

/-- The ways to ask for a line while the client `h` is held. -/
inductive Heard (l : Listener H) (h : H) : Turn H → Listener H → Prop where
  | buffered {line rest : List UInt8} (hline : newline ∉ line)
      (hl : l.buffer = line ++ newline :: rest) :
      Heard l h ⟨.line (.ok (some (lineText line))), []⟩ { l with buffer := rest }
  | completed {chunk line rest : List UInt8} (hchunk : chunk ≠ []) (hb : newline ∉ l.buffer)
      (hsize : chunk.length ≤ l.settings.recvSize) (hline : newline ∉ line)
      (hl : l.buffer ++ chunk = line ++ newline :: rest) :
      Heard l h
        ⟨.line (.ok (some (lineText line))), [.received h l.settings.recvSize (.ok chunk)]⟩
        { l with buffer := rest }
  | kept {chunk : List UInt8} (hchunk : chunk ≠ []) (hn : newline ∉ l.buffer ++ chunk)
      (hle : (l.buffer ++ chunk).length ≤ l.settings.maxLine) :
      Heard l h ⟨.line (.ok none), [.received h l.settings.recvSize (.ok chunk)]⟩
        { l with buffer := l.buffer ++ chunk }
  | quiet {f : Fault} (hb : newline ∉ l.buffer) (hf : f.isA .connectionError = false) :
      Heard l h ⟨.line (.ok none), [.received h l.settings.recvSize (.error f)]⟩ l
  | overlong {chunk : List UInt8} {a : Except Fault Unit} (hchunk : chunk ≠ [])
      (hn : newline ∉ l.buffer ++ chunk)
      (hlt : l.settings.maxLine < (l.buffer ++ chunk).length) :
      Heard l h ⟨.line (.ok none), [.received h l.settings.recvSize (.ok chunk), .closed h a]⟩
        l.alone
  | ended {r : Except Fault (List UInt8)} {a : Except Fault Unit} (hb : newline ∉ l.buffer)
      (hend : Ends r) :
      Heard l h ⟨.line (.ok none), [.received h l.settings.recvSize r, .closed h a]⟩ l.alone

/-- The ways to look for a client while none is held, each with the client that is held then. -/
inductive Met (server : H) : Turn H → Option H → Prop where
  | nobody {f : Fault} : Met server ⟨.accepted (.ok false), [.accepted server (.error f)]⟩ none
  | caller {h : H} {e : Endpoint} :
      Met server ⟨.accepted (.ok true), [.accepted server (.ok (h, e)), .timed h (.ok ())]⟩ (some h)
  | unusable {h : H} {e : Endpoint} {f : Fault} {a : Except Fault Unit} :
      Met server ⟨.accepted (a.map fun _ => false),
        [.accepted server (.ok (h, e)), .timed h (.error f), .closed h a]⟩ none

namespace Listener

variable [Sockets W H] {l : Listener H} {w : W}

/-- A listener with a client that has sent nothing so far, if there is a client. -/
def meet (l : Listener H) : Option H → Listener H
  | none => l
  | some h => { l with client := some h, buffer := [] }

theorem exchanges_dropClient {h : H} {r : Recorded W H} {a : Except Fault Unit} {w' : W}
    (hc : l.client = some h) (hclose : Sockets.close h r.world = (a, w')) :
    (dropClient l r).2.2.exchanges = r.exchanges ++ [.closed h a] := by
  have hrec := Recorded.close_of_eq hclose
  cases a with
  | ok u => simp [dropClient, hc, hrec]
  | error f => cases hf : f.isA .systemError <;> simp [dropClient, hc, hrec, hf]

/-- Dropping the client for a notice, after something was received. -/
theorem dropping_of_client {h : H} {r : Recorded W H} {n : Notice}
    (hc : l.client = some h)
    (ho : ∀ x ∈ (dropping (dropClient l (Sockets.note n r))).2.2.exchanges, x.Ordinary) :
    ∃ a w', dropping (dropClient l (Sockets.note n r)) =
      (.ok none, l.alone, ⟨w', r.exchanges ++ [.closed h a]⟩) := by
  rcases hclose : Sockets.close h (Sockets.note n r).world with ⟨a, w'⟩
  have hmem : Exchange.closed h a ∈ (dropClient l (Sockets.note n r)).2.2.exchanges := by
    rw [exchanges_dropClient hc hclose]
    exact List.mem_append_right _ List.mem_cons_self
  have hdrop := dropClient_of_client hc (Recorded.close_of_eq hclose) (ho _ hmem)
  refine ⟨a, w', ?_⟩
  rw [dropping, hdrop]
  rfl

/-- What asking for a line adds to a record. -/
theorem receiveLine_of_client {h : H} {r : Recorded W H} (hc : l.client = some h)
    (ho : ∀ x ∈ (receiveLine l r).2.2.exchanges, x.Ordinary) :
    ∃ t, Heard l h t (receiveLine l r).2.1 ∧ t.answer = .line (receiveLine l r).1 ∧
      (receiveLine l r).2.2.exchanges = r.exchanges ++ t.exchanges := by
  rcases splitLine?_cases l.buffer with ⟨hb, _⟩ | ⟨line, rest, hline, hl, _⟩
  · rcases hr : Sockets.receive h l.settings.recvSize r.world with ⟨a, w'⟩
    have hrec := Recorded.receive_of_eq hr
    have hmem : Exchange.received h l.settings.recvSize a ∈
        r.exchanges ++ [.received h l.settings.recvSize a] :=
      List.mem_append_right _ List.mem_cons_self
    by_cases hend : Ends a
    · rw [receiveLine_of_ends hc hb hrec hend] at ho ⊢
      obtain ⟨b, w'', hdrop⟩ := dropping_of_client hc ho
      rw [hdrop]
      exact ⟨_, .ended hb hend, rfl, List.append_assoc _ _ _⟩
    · cases a with
      | error f =>
        have hf : f.isA .connectionError = false :=
          Bool.eq_false_iff.mpr fun hf => hend (.inr ⟨f, rfl, hf⟩)
        rw [receiveLine_of_fault hc hb hrec hf] at ho ⊢
        have hs : f.isA .systemError = true := (ho _ hmem).1 f rfl
        rw [if_pos hs]
        exact ⟨_, .quiet hb hf, rfl, rfl⟩
      | ok chunk =>
        have hchunk : chunk ≠ [] := fun h => hend (.inl (congrArg Except.ok h))
        rcases splitLine?_cases (l.buffer ++ chunk) with ⟨hn, _⟩ | ⟨line, rest, hline, hl, _⟩
        · by_cases hle : (l.buffer ++ chunk).length ≤ l.settings.maxLine
          · rw [receiveLine_of_kept hc hb hrec hchunk hn hle]
            exact ⟨_, .kept hchunk hn hle, rfl, rfl⟩
          · have hlt := Nat.lt_of_not_le hle
            rw [receiveLine_of_overlong hc hb hrec hchunk hn hlt] at ho ⊢
            obtain ⟨b, w'', hdrop⟩ :=
              dropping_of_client (l := { l with buffer := l.buffer ++ chunk }) hc ho
            rw [hdrop]
            exact ⟨_, .overlong hchunk hn hlt, rfl, List.append_assoc _ _ _⟩
        · rw [receiveLine_of_completed hc hb hrec hchunk hline hl] at ho ⊢
          have hsize := (ho _ hmem).2 chunk rfl
          exact ⟨_, .completed hchunk hb hsize hline hl, rfl, rfl⟩
  · rw [receiveLine_of_buffered hc hline hl]
    exact ⟨_, .buffered hline hl, rfl, (List.append_nil _).symm⟩

theorem turn_receive_of_client {h : H} (hc : l.client = some h)
    (ho : ∀ x ∈ (turn .receive l w).1.exchanges, x.Ordinary) :
    Heard l h (turn .receive l w).1 (turn .receive l w).2.1 := by
  unfold turn call at ho ⊢
  obtain ⟨⟨answer, exchanges⟩, ht, hanswer, hexchanges⟩ := receiveLine_of_client hc ho
  rw [List.nil_append] at hexchanges
  dsimp only at hanswer hexchanges ⊢
  rw [hexchanges, ← hanswer]
  exact ht

theorem turn_receive_of_none (hc : l.client = none) :
    turn .receive l w = (⟨.line (.ok none), []⟩, l, w) := by
  rw [turn, call, receiveLine_of_no_client hc]

theorem turn_accept_of_client {h : H} (hc : l.client = some h) :
    turn .accept l w = (⟨.accepted (.ok false), []⟩, l, w) := by
  rw [turn, call, acceptIfNone_of_client hc]

theorem turn_accept_of_none {server : H} (hs : l.server = some server) (hc : l.client = none)
    (ho : ∀ x ∈ (turn .accept l w).1.exchanges, x.Ordinary) :
    ∃ h?, Met server (turn .accept l w).1 h? ∧ (turn .accept l w).2.1 = l.meet h? := by
  unfold turn call at ho ⊢
  rcases hr : Sockets.accept server w with ⟨r, w'⟩
  have hrec := Recorded.accept_of_eq (r := ⟨w, []⟩) hr
  rcases r with f | ⟨h, e⟩
  · rw [acceptIfNone_of_nobody hs hc hrec] at ho ⊢
    rw [if_pos (ho _ List.mem_cons_self f rfl)]
    exact ⟨none, .nobody, rfl⟩
  · rcases ht : Sockets.setTimeout h (timeout l.settings) w' with ⟨a, w''⟩
    have htrec := Recorded.setTimeout_of_eq (r := ⟨w', [.accepted server (.ok (h, e))]⟩) ht
    cases a with
    | ok u =>
      rw [acceptIfNone_of_caller hs hc hrec htrec]
      exact ⟨some h, .caller, rfl⟩
    | error f =>
      cases hf : f.isA .systemError with
      | false =>
        rw [acceptIfNone_of_untimed hs hc hrec htrec hf] at ho
        have hs : f.isA .systemError = true :=
          ho (.timed h (.error f)) (List.mem_cons_of_mem _ List.mem_cons_self) f rfl
        rw [hf] at hs
        contradiction
      | true =>
        rcases hclose : Sockets.close h (Sockets.note (.clientUnusable e f) w'') with ⟨c, w₁⟩
        have hcrec := Recorded.close_of_eq
          (r := Sockets.note (.clientUnusable e f)
            ⟨w'', [.accepted server (.ok (h, e)), .timed h (.error f)]⟩) hclose
        rw [acceptIfNone_of_unusable hs hc hrec htrec hf hcrec]
        exact ⟨none, .unusable, rfl⟩

end Listener

end LiveConsole.Net
