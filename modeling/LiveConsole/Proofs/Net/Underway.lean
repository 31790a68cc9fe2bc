import LiveConsole.Proofs.Console.Replies
import LiveConsole.Proofs.Net.Delivery

/-!
# Calls in their order

What a client has sent and a server has evaluated of it, the responses that were returned and those that
are still on their way make up one stream in either direction. Ticks, waits and calls keep this, so in
every run the messages are the responses in their order.
-/

namespace LiveConsole.Net
set_option autoImplicit false

open Evaluator (evaluate evaluateAll)

variable {L : Language}

/-- The responses to expressions as they are sent. -/
def answers (c : Context L) (es : List Text) : List Response :=
  (evaluateAll c (es.map Text.soften)).1

def requested (es : List Text) : List UInt8 := es.flatMap fun e => Request.encode ⟨e⟩

theorem exists_line_of_tells {r : Response} {d : Datum} (h : r.Tells d) : ∃ line,
    newline ∉ line ∧ octets r = line ++ [newline] ∧
      ∀ room, Client.message? room line = .ok (some d) := by
  obtain ⟨line, hline, hencode, hmessage⟩ := h
  refine ⟨line, hline, ?_, hmessage⟩
  rw [octets, hencode]
  rfl

theorem exists_tells_of_mem {c : Context L} {es : List Text} {r : Response}
    (h : r ∈ answers c es) : ∃ d, r.Tells d := by
  obtain ⟨c', e, he⟩ := Evaluator.exists_evaluate_of_mem h
  obtain ⟨data, hdata⟩ := Evaluator.exists_encode_evaluate c' e he
  exact Response.exists_tells hdata

theorem requested_cons (room : Nat) (e : Text) (es : List Text) : ∃ line, newline ∉ line ∧
    requested (e :: es) = line ++ newline :: requested es ∧
      Request.asked? room line = some e.soften := by
  obtain ⟨line, hline, hencode, hasked⟩ := Request.exists_line room e
  refine ⟨line, hline, ?_, hasked⟩
  rw [requested, List.flatMap_cons, hencode, List.append_assoc]
  rfl

/-- What comes of a request goes to the client. -/
theorem replied_of_asked (c : Context L) {line : List UInt8} {e : Text}
    (h : Request.asked? L.room line = some e) : replied (Evaluator.handleLine c (lineText line)).1 =
      (evaluate c e).1.toOption.toList.flatMap octets := by
  rw [Evaluator.handleLine_of_asked c h]
  rcases evaluate c e with ⟨x | r, c'⟩
  · rfl
  · exact (List.flatMap_singleton octets r).symm

/-- A property of what a client holds and what it reaches that is kept while octets are on their way. -/
structure Carried (p : List UInt8 → Remote L → Prop) : Prop where
  tick : ∀ portion {b x}, p b x → p b (x.tick portion)
  wait : ∀ moments {b x}, p b x → p b { x with moments := moments }
  arrive : ∀ chunk rest {b} {x : Remote L}, p b x → chunk ++ rest = x.link.responses →
    p (b ++ chunk) { x with link := { x.link with responses := rest } }

namespace Carried

variable {p : List UInt8 → Remote L → Prop} (hp : Carried p)
include hp

theorem ticks (portions : List Nat) {b : List UInt8} {x : Remote L} (h : p b x) :
    p b (x.ticks portions) := by
  induction portions generalizing x with
  | nil => exact h
  | cons portion portions ih => exact ih (hp.tick portion h)

theorem receive (size : Nat) {b : List UInt8} {x : Remote L} (h : p b x) :
    p (b ++ (x.receive size).1.toOption.getD []) (x.receive size).2 := by
  obtain ⟨later, portions, rest, hx, hresponses⟩ := Remote.received size x
  rw [hx]
  exact hp.arrive _ rest (hp.ticks portions (hp.wait later h)) hresponses

/-- Either a line is taken for a message, or what was held is held still. -/
theorem read (hlegible : ∀ line rest x, newline ∉ line → p (line ++ newline :: rest) x →
      ∃ d, ∀ room, Client.message? room line = .ok (some d))
    (rounds : Nat) {client : Client Unit} (hs : client.socket = some ()) {x : Remote L}
    (h : p client.buffer x) :
    (∃ line rest d x', client.readMessage rounds x =
        (.message d, { client with buffer := rest }, x') ∧
      newline ∉ line ∧ (∀ room, Client.message? room line = .ok (some d)) ∧
        p (line ++ newline :: rest) x') ∨
    ∃ ending b x', client.readMessage rounds x = (ending, { client with buffer := b }, x') ∧
      (∀ d, ending ≠ .message d) ∧ p b x' :=
  Client.readMessage_keeps hlegible (fun _ _ hx => hp.receive _ hx) rounds hs h

end Carried

/-- How far a server has come with what a client has sent. -/
structure Progress (c : Context L) (done pending : List Text) (x : Remote L) : Prop where
  accepted : x.link.calling = false
  held : x.server.listener.client = none ∨ x.server.listener.client = some () ∧
    x.context = (evaluateAll c (done.map Text.soften)).2 ∧
    x.server.listener.buffer ++ x.link.requests = requested pending

/-- What was sent was evaluated in part. Of the responses to it a number were returned; the others are in the
buffer of the client or on their way. -/
def Underway (c : Context L) (sent : List Text) (k : Nat) (b : List UInt8) (x : Remote L) : Prop :=
  ∃ done pending, sent = done ++ pending ∧ Progress c done pending x ∧
    k ≤ (answers c done).length ∧
    b ++ x.link.responses = ((answers c done).drop k).flatMap octets

namespace Underway

variable {c : Context L} {sent : List Text} {k : Nat} {b : List UInt8} {x : Remote L}

theorem tick (portion : Nat) (h : Underway c sent k b x) : Underway c sent k b (x.tick portion) := by
  obtain ⟨done, pending, hsent, ⟨haccepted, hheld⟩, hk, hout⟩ := h
  rcases hheld with hgone | ⟨hclient, hcontext, hin⟩
  · have htick := Server.tick_of_gone (w := { x.link with portion := portion }) hgone haccepted x.context
    rw [Remote.tick_of_server htick]
    exact ⟨done, pending, hsent, ⟨haccepted, .inl hgone⟩, hk, hout⟩
  · obtain ⟨a, s', c', w', htick, hcalling, hserved⟩ :=
      Server.served_tick hclient x.context { x.link with portion := portion }
    rw [Remote.tick_of_server htick]
    have haccepted' : w'.calling = false := hcalling.trans haccepted
    cases hserved with
    | nothing hc' hin' hout' =>
      refine ⟨done, pending, hsent, ⟨haccepted', .inr ⟨hc', hcontext, hin'.trans hin⟩⟩, hk, ?_⟩
      rw [← hout]
      exact congrArg (b ++ ·) hout'
    | dropped hc' _ hout' =>
      refine ⟨done, pending, hsent, ⟨haccepted', .inl hc'⟩, hk, ?_⟩
      rw [← hout]
      exact congrArg (b ++ ·) hout'
    | @line line _ _ hline hc' hin' hout' =>
      cases pending with
      | nil =>
        rw [hin] at hin'
        exact absurd hin' (by simp [requested])
      | cons e pending =>
        obtain ⟨line', hline', hrequested, hasked⟩ := requested_cons L.room e pending
        rw [hin, hrequested] at hin'
        obtain ⟨rfl, hrest⟩ := line_inj hline' hline hin'
        have hall := Evaluator.evaluateAll_concat c (done.map Text.soften) e.soften
        have hanswers : answers c (done ++ [e]) =
            answers c done ++ (evaluate x.context e.soften).1.toOption.toList := by
          rw [answers, List.map_append, List.map_singleton, hall, hcontext, answers]
        refine ⟨done ++ [e], pending, by rw [hsent, List.append_assoc]; rfl,
          ⟨haccepted', .inr ⟨hc', ?_, hrest.symm⟩⟩, ?_, ?_⟩
        · rw [List.map_append, List.map_singleton, hall, ← hcontext,
            Evaluator.handleLine_of_asked x.context hasked]
        · rw [hanswers, List.length_append]
          exact Nat.le_add_right_of_le hk
        · rw [hout', replied_of_asked x.context hasked, hanswers, List.drop_append_of_le_length hk,
            List.flatMap_append, ← hout, List.append_assoc]

theorem carried : Carried (L := L) (Underway c sent k) where
  tick portion _ _ h := h.tick portion
  wait moments _ _ h := by
    obtain ⟨done, pending, hsent, ⟨haccepted, hheld⟩, hk, hout⟩ := h
    exact ⟨done, pending, hsent, ⟨haccepted, hheld⟩, hk, hout⟩
  arrive chunk rest b x h hrest := by
    obtain ⟨done, pending, hsent, ⟨haccepted, hheld⟩, hk, hout⟩ := h
    refine ⟨done, pending, hsent, ⟨haccepted, hheld⟩, hk, ?_⟩
    rw [List.append_assoc, ← hout, ← hrest]

theorem send (e : Text) (h : Underway c sent k b x) :
    Underway c (sent ++ [e]) k b (x.send (Request.encode ⟨e⟩)) := by
  obtain ⟨done, pending, hsent, ⟨haccepted, hheld⟩, hk, hout⟩ := h
  refine ⟨done, pending ++ [e], by rw [hsent, List.append_assoc], ⟨haccepted, ?_⟩, hk, hout⟩
  rcases hheld with hgone | ⟨hclient, hcontext, hin⟩
  · exact .inl hgone
  · refine .inr ⟨hclient, hcontext, ?_⟩
    rw [Remote.send, ← List.append_assoc, hin, requested, requested, List.flatMap_append,
      List.flatMap_singleton]

/-- The first line that a client holds is the oldest response that was not returned. -/
theorem take {line rest : List UInt8} (hline : newline ∉ line)
    (h : Underway c sent k (line ++ newline :: rest) x) :
    ∃ d r done, done <+: sent ∧ (answers c done)[k]? = some r ∧ r.Tells d ∧
      (∀ room, Client.message? room line = .ok (some d)) ∧ Underway c sent (k + 1) rest x := by
  obtain ⟨done, pending, hsent, hprogress, hk, hout⟩ := h
  cases hdrop : (answers c done).drop k with
  | nil =>
    rw [hdrop] at hout
    exact absurd hout (by simp)
  | cons r more =>
    have hr : (answers c done)[k]? = some r := by
      rw [← List.head?_drop, hdrop, List.head?_cons]
    have hmore : (answers c done).drop (k + 1) = more := by
      rw [← List.tail_drop, hdrop, List.tail_cons]
    obtain ⟨hlt, _⟩ := List.getElem?_eq_some_iff.mp hr
    obtain ⟨d, htells⟩ := exists_tells_of_mem (List.mem_of_getElem? hr)
    obtain ⟨line', hline', hoctets, hmessage⟩ := exists_line_of_tells htells
    rw [hdrop, List.flatMap_cons, hoctets, List.append_assoc, List.append_assoc] at hout
    obtain ⟨rfl, hrest⟩ := line_inj hline hline' hout
    refine ⟨d, r, done, ⟨pending, hsent.symm⟩, hr, htells, hmessage, done, pending, hsent, hprogress,
      hlt, ?_⟩
    rw [hmore]
    exact hrest

end Underway

/-- What a wait for the next response comes to. -/
inductive Answered (c : Context L) (sent : List Text) (k : Nat) :
    Client.Ending Client.Failure → Client Unit → Remote L → Prop where
  | returned {d : Datum} {r : Response} {done : List Text} {client : Client Unit} {x : Remote L}
      (hdone : done <+: sent) (hr : (answers c done)[k]? = some r) (hd : r.Tells d)
      (hs : client.socket = some ()) (h : Underway c sent (k + 1) client.buffer x) :
      Answered c sent k (.message d) client x
  | raised {ending : Client.Ending Client.Failure} {client : Client Unit} {x : Remote L}
      (hnone : ∀ d, ending ≠ .message d) (hs : client.socket = some ())
      (h : Underway c sent k client.buffer x) : Answered c sent k ending client x

section Calls

variable {c : Context L} {sent : List Text} {k : Nat}

theorem Underway.read (rounds : Nat) {client : Client Unit} (hs : client.socket = some ())
    {x : Remote L} (h : Underway c sent k client.buffer x) :
    Answered c sent k (client.readMessage rounds x).1 (client.readMessage rounds x).2.1
      (client.readMessage rounds x).2.2 := by
  have hlegible (line rest : List UInt8) (x : Remote L) (hline : newline ∉ line)
      (hx : Underway c sent k (line ++ newline :: rest) x) :
      ∃ d, ∀ room, Client.message? room line = .ok (some d) := by
    obtain ⟨d, _, _, _, _, _, hd, _⟩ := hx.take hline
    exact ⟨d, hd⟩
  rcases Underway.carried.read hlegible rounds hs h with
    ⟨line, rest, d, x', hread, hline, hd, hx⟩ | ⟨ending, b, x', hread, hnone, hx⟩
  · obtain ⟨d', r, done, hdone, hr, htells, hd', hrest⟩ := hx.take hline
    obtain rfl : d = d' := Option.some.inj (Except.ok.inj ((hd 0).symm.trans (hd' 0)))
    rw [hread]
    exact .returned hdone hr htells hs hrest
  · rw [hread]
    exact .raised hnone hs hx

namespace Dialogue

variable {x : Dialogue L}

theorem answered_evaluate (moments : List Moment) (e : Text) (hs : x.client.socket = some ())
    (h : Underway c sent k x.client.buffer x.remote) :
    Answered c (sent ++ [e]) k (x.evaluate moments e).1 (x.evaluate moments e).2.client
      (x.evaluate moments e).2.remote := by
  have hsend : x.client.evaluate (moments.length + 1) ⟨e⟩ (x.lasting moments) =
      x.client.readMessage (moments.length + 1)
        ((x.lasting moments).send (Request.encode ⟨e⟩)) := by
    simp only [Client.evaluate, Client.sendRequest, Client.send, hs]
    rfl
  simp only [evaluate, hsend]
  exact ((Underway.carried.wait moments h).send e).read _ hs

/-- Whether a call has returned a message. -/
def isMessage : Client.Ending Client.Failure → Bool
  | .message _ => true
  | _ => false

theorem exists_of_isMessage {ending : Client.Ending Client.Failure} (h : isMessage ending = true) :
    ∃ d, ending = .message d := by
  cases ending with
  | message d => exact ⟨d, rfl⟩
  | failed | unfinished => contradiction

/-- In every run the messages are the responses in their order. -/
theorem run_returns (steps : List Step) (hs : x.client.socket = some ())
    (h : Underway c sent k x.client.buffer x.remote) {i : Nat} {d : Datum}
    (hi : (run steps x)[i]? = some (.message d)) :
    ∃ done r, done <+: sent ++ (expressions steps).take (i + 1) ∧
      (answers c done)[k + ((run steps x).take i).countP isMessage]? = some r ∧ r.Tells d := by
  induction steps generalizing x sent k i with
  | nil => contradiction
  | cons step steps ih =>
    cases step with
    | tick portion =>
      rw [run_tick] at hi ⊢
      exact ih (x := x.tick portion) hs (h.tick portion) hi
    | evaluate moments e =>
      have hanswered := answered_evaluate moments e hs h
      rw [run_evaluate] at hi ⊢
      rw [expressions_evaluate, List.take_succ_cons, List.append_cons]
      generalize x.evaluate moments e = out at hanswered hi ⊢
      obtain ⟨ending, client, remote⟩ := out
      dsimp only at hanswered hi ⊢
      cases i with
      | zero =>
        obtain rfl : ending = .message d := Option.some.inj hi
        cases hanswered with
        | @returned _ r done _ _ hdone hr hd =>
          exact ⟨done, r, hdone.trans (List.prefix_append _ _), hr, hd⟩
        | raised hnone => exact absurd rfl (hnone d)
      | succ i =>
        rw [List.getElem?_cons_succ] at hi
        rw [List.take_succ_cons]
        cases hanswered with
        | returned _ _ _ hs' h' =>
          obtain ⟨done, r, hdone, hr, hd⟩ := ih (x := ⟨client, remote⟩) hs' h' hi
          refine ⟨done, r, hdone, ?_, hd⟩
          rwa [List.countP_cons_of_pos rfl, ← Nat.add_assoc, Nat.add_right_comm]
        | raised hnone hs' h' =>
          obtain ⟨done, r, hdone, hr, hd⟩ := ih (x := ⟨client, remote⟩) hs' h' hi
          have hraised : ¬isMessage ending = true := by
            cases ending with
            | message d => exact absurd rfl (hnone d)
            | failed | unfinished => exact Bool.false_ne_true
          refine ⟨done, r, hdone, ?_, hd⟩
          rwa [List.countP_cons_of_neg hraised]

end Dialogue

end Calls

end LiveConsole.Net
