import LiveConsole.Proofs.Message.Body
import LiveConsole.Proofs.Net.Sending
import LiveConsole.Proofs.Net.ServedInOrder

/-!
# Messages that are cut short

A call that fails to send a message may have written a start of it. The server goes on sending to the
same client, so that the next message is written right behind this start and the client takes both for
one line. Behind every message that was written in full a new line begins.
-/

namespace LiveConsole.Net
set_option autoImplicit false

/-- A message that was handed to a connection, with what was written of it. -/
structure Handover where
  message : List UInt8
  written : List UInt8

namespace Handover

def isWhole (x : Handover) : Bool := x.written = x.message

/-- The message without its newline. -/
def body (x : Handover) : List UInt8 := x.message.dropLast

/-- A start of a message of one line. -/
structure Fair (x : Handover) : Prop where
  line : ∃ body, newline ∉ body ∧ x.message = body ++ [newline]
  start : x.written <+: x.message

variable {x : Handover}

theorem Fair.message_eq (hx : x.Fair) : newline ∉ x.body ∧ x.message = x.body ++ [newline] := by
  obtain ⟨body, hbody, hmessage⟩ := hx.line
  rw [Handover.body, hmessage, List.dropLast_concat]
  exact ⟨hbody, rfl⟩

/-- A message that is cut short loses its newline. -/
theorem Fair.newline_not_mem (hx : x.Fair) (hcut : x.isWhole = false) : newline ∉ x.written := by
  obtain ⟨hbody, hmessage⟩ := hx.message_eq
  have hne : x.written ≠ x.body ++ [newline] := by
    rw [← hmessage]
    simpa [isWhole] using hcut
  have hstart := hx.start
  rw [hmessage, List.prefix_concat_iff] at hstart
  rcases hstart with hall | hstart
  · contradiction
  · exact fun hmem => hbody (hstart.subset hmem)

theorem written_of_isWhole (hwhole : x.isWhole = true) : x.written = x.message := by
  simpa [isWhole] using hwhole

end Handover

/-- All octets that were written. -/
def written (xs : List Handover) : List UInt8 := xs.flatMap Handover.written

/-- The lines that are complete in what was written, if `start` was there before. -/
def linesAfter : (start : List UInt8) → List Handover → List (List UInt8)
  | _, [] => []
  | start, x :: later =>
    if x.isWhole then (start ++ x.body) :: linesAfter [] later
    else linesAfter (start ++ x.written) later

/-- What follows the last complete line. -/
def startAfter : (start : List UInt8) → List Handover → List UInt8
  | start, [] => start
  | start, x :: later =>
    if x.isWhole then startAfter [] later else startAfter (start ++ x.written) later

/-- Messages are whole up to the first that is cut short. -/
theorem exists_whole (xs : List Handover) :
    ∃ whole later, xs = whole ++ later ∧ (∀ x ∈ whole, x.isWhole = true) ∧
      (later = [] ∨ ∃ x more, later = x :: more ∧ x.isWhole = false) := by
  induction xs with
  | nil => exact ⟨[], [], rfl, by simp, .inl rfl⟩
  | cons x xs ih =>
    cases hx : x.isWhole with
    | false => exact ⟨[], x :: xs, rfl, by simp, .inr ⟨x, xs, rfl, hx⟩⟩
    | true =>
      obtain ⟨whole, later, rfl, hwhole, hlater⟩ := ih
      exact ⟨x :: whole, later, rfl, List.forall_mem_cons.mpr ⟨hx, hwhole⟩, hlater⟩

theorem written_append (xs ys : List Handover) : written (xs ++ ys) = written xs ++ written ys :=
  List.flatMap_append

theorem written_of_whole {xs : List Handover} (hxs : ∀ x ∈ xs, x.Fair)
    (hwhole : ∀ x ∈ xs, x.isWhole = true) : written xs = joined (xs.map Handover.body) := by
  induction xs with
  | nil => rfl
  | cons x xs ih =>
    obtain ⟨hx, hrest⟩ := List.forall_mem_cons.mp hxs
    obtain ⟨hxwhole, hrestwhole⟩ := List.forall_mem_cons.mp hwhole
    have hmessage := hx.message_eq.2
    rw [← Handover.written_of_isWhole hxwhole] at hmessage
    rw [written, List.flatMap_cons, List.map_cons, joined_cons, hmessage, ← written,
      ih hrest hrestwhole, List.append_assoc]
    rfl

theorem newline_not_mem_of_mem_bodies {xs : List Handover} (hxs : ∀ x ∈ xs, x.Fair) :
    ∀ p ∈ xs.map Handover.body, newline ∉ p := by
  intro p hp
  obtain ⟨x, hx, rfl⟩ := List.mem_map.mp hp
  exact (hxs x hx).message_eq.1

/-- What a peer takes for lines. -/
theorem frames_written {xs : List Handover} (hxs : ∀ x ∈ xs, x.Fair) {start : List UInt8}
    (hstart : newline ∉ start) :
    frames (start ++ written xs) = linesAfter start xs ∧
      remainder (start ++ written xs) = startAfter start xs := by
  induction xs generalizing start with
  | nil =>
    rw [written, List.flatMap_nil, List.append_nil]
    exact ⟨frames_of_not_mem hstart, remainder_of_not_mem hstart⟩
  | cons x later ih =>
    obtain ⟨hx, hlater⟩ := List.forall_mem_cons.mp hxs
    have hsplit : start ++ written (x :: later) = start ++ x.written ++ written later := by
      rw [written, List.flatMap_cons, List.append_assoc]
      rfl
    cases hwhole : x.isWhole with
    | true =>
      obtain ⟨hbody, hmessage⟩ := hx.message_eq
      have hline : ∀ p ∈ [start ++ x.body], newline ∉ p := by
        simpa using ⟨hstart, hbody⟩
      have hjoined : start ++ written (x :: later) = joined [start ++ x.body] ++ written later := by
        rw [hsplit, Handover.written_of_isWhole hwhole, hmessage]
        simp [joined]
      have hnothing : newline ∉ ([] : List UInt8) := List.not_mem_nil
      obtain ⟨hframes, hremainder⟩ := ih hlater hnothing
      rw [List.nil_append] at hframes hremainder
      rw [hjoined, frames_joined_append hline, remainder_joined_append hline, hframes, hremainder,
        linesAfter, startAfter, if_pos hwhole, if_pos hwhole]
      exact ⟨rfl, rfl⟩
    | false =>
      have hmore : newline ∉ start ++ x.written :=
        List.not_mem_append hstart (hx.newline_not_mem hwhole)
      rw [hsplit, linesAfter, startAfter, hwhole]
      exact ih hlater hmore

section
variable {W H : Type} {L : Language}

/-- All that is sent are responses. -/
def Exchange.IsResponse : Exchange H → Prop
  | .sent _ data _ => ∃ x : Response, x.encode = .ok data
  | _ => True

theorem attends_isResponse : Attends (H := H) Exchange.IsResponse where
  timed _ _ := trivial
  received _ _ _ := trivial
  sent x _ hx _ _ := ⟨x, hx⟩
  closed _ _ := trivial

variable [DecidableEq H]

/-- What was handed to a connection. If the call for a message failed, `cut` tells by the number of the
message how long the start is that was written. -/
def handovers (h : H) : (cut : Nat → Nat) → List (Exchange H) → List Handover
  | _, [] => []
  | cut, .sent k data answer :: later =>
    if k = h then
      ⟨data, if answer.toBool then data else data.take (cut 0)⟩ ::
        handovers h (fun n => cut (n + 1)) later
    else handovers h cut later
  | cut, _ :: later => handovers h cut later

/-- The messages are what is sent on the connection. -/
theorem message_handovers (h : H) (cut : Nat → Nat) (xs : List (Exchange H)) :
    (handovers h cut xs).map Handover.message =
      ((sends xs).filter fun x => x.1 = h).map Prod.snd := by
  fun_induction handovers h cut xs with
  | case1 => rfl
  | case2 cut data answer later ih => simp [sends, Exchange.sent?, ih]
  | case3 cut k data answer later hne ih => simpa [sends, Exchange.sent?, hne] using ih
  | case4 cut x later hne ih =>
    have hsilent : x.sent? = none := by
      cases x with
      | sent k data answer => exact absurd rfl (hne k data answer)
      | accepted | timed | received | closed => rfl
    rw [ih, sends, sends, List.filterMap_cons_none hsilent]

theorem line_of_encode {x : Response} {data : List UInt8} (h : x.encode = .ok data) :
    ∃ body, newline ∉ body ∧ data = body ++ [newline] := by
  obtain ⟨ms, rfl⟩ := Response.exists_body h
  exact ⟨Message.body ms, Message.newline_not_mem_body ms, rfl⟩

theorem handovers_fair {xs : List (Exchange H)} (hxs : ∀ x ∈ xs, x.IsResponse) (h : H)
    (cut : Nat → Nat) :
    ∀ x ∈ handovers h cut xs, x.Fair ∧ ∃ r : Response, r.encode = .ok x.message := by
  fun_induction handovers h cut xs with
  | case1 => simp
  | case2 cut data answer later ih =>
    obtain ⟨⟨r, hr⟩, hlater⟩ := List.forall_mem_cons.mp hxs
    have hstart : (if answer.toBool then data else data.take (cut 0)) <+: data := by
      split
      · exact List.prefix_refl data
      · exact List.take_prefix _ data
    exact List.forall_mem_cons.mpr ⟨⟨⟨line_of_encode hr, hstart⟩, r, hr⟩, ih hlater⟩
  | case3 cut k data answer later hne ih => exact ih (List.forall_mem_cons.mp hxs).2
  | case4 cut x later hne ih => exact ih (List.forall_mem_cons.mp hxs).2

variable [Sockets W H]

namespace Server

/-- What was handed to a connection while a server was ticked, from one call on record to another. -/
def handedOver (n : Nat) (s : Server H) (c : Context L) (w : W) (h : H) (cut : Nat → Nat)
    (first last : Nat) : List Handover :=
  handovers h cut
    (((s.ticks n c (⟨w, []⟩ : Recorded W H)).2.2.exchanges.take last).drop first)

theorem handedOver_fair (n : Nat) (s : Server H) (c : Context L) (w : W) (h : H)
    (cut : Nat → Nat) (first last : Nat) :
    ∀ x ∈ handedOver n s c w h cut first last,
      x.Fair ∧ ∃ r : Response, r.encode = .ok x.message := by
  obtain ⟨new, hnew, hresponses⟩ :=
    adds_ticks s c (⟨w, []⟩ : Recorded W H) attends_isResponse (fun _ _ => trivial) n
  apply handovers_fair
  intro x hx
  apply hresponses x
  rw [hnew] at hx
  exact List.mem_of_mem_take (List.mem_of_mem_drop hx)

theorem handedOver_message (n : Nat) (s : Server H) (c : Context L) (w : W) (h : H)
    (cut : Nat → Nat) {last : Nat}
    (hlast : (s.ticks n c (⟨w, []⟩ : Recorded W H)).2.2.exchanges.length ≤ last) :
    (handedOver n s c w h cut 0 last).map Handover.message =
      ((s.dueOver n c (⟨w, []⟩ : Recorded W H)).filter fun x => x.1 = h).map Prod.snd := by
  rw [handedOver, List.drop_zero, List.take_of_length_le hlast, message_handovers, sends_ticks]
  rfl

/-- At every moment of a run, the octets written to a connection are those of its messages in their
order, of some of them only a start. The messages are those that are due in the ticks, in which it makes
no difference whether a message can be sent: the client is kept, and what is due later is written behind a
message that was cut short. Up to the first that was cut short they are whole lines. The lines that a
peer takes are those of whole messages, each with the starts in front of it that were cut short since
the whole message before. -/
theorem written_aligned (n : Nat) (s : Server H) (c : Context L) (w : W) (h : H)
    (cut : Nat → Nat) (first last : Nat) :
    (∀ k, ∃ looked greeted read replied,
      Tick (s.ticks k c (⟨w, []⟩ : Recorded W H)).1 (s.ticks k c (⟨w, []⟩ : Recorded W H)).2.1
        (s.ticks k c (⟨w, []⟩ : Recorded W H)).2.2 looked greeted read replied) ∧
    ((s.ticks n c (⟨w, []⟩ : Recorded W H)).2.2.exchanges.length ≤ last →
      (handedOver n s c w h cut 0 last).map Handover.message =
        ((s.dueOver n c (⟨w, []⟩ : Recorded W H)).filter fun x => x.1 = h).map Prod.snd) ∧
    (∀ x ∈ handedOver n s c w h cut first last,
      x.Fair ∧ ∃ r : Response, r.encode = .ok x.message) ∧
    (∃ whole later, handedOver n s c w h cut first last = whole ++ later ∧
      (∀ x ∈ whole, x.isWhole = true) ∧
      (later = [] ∨ ∃ x more, later = x :: more ∧ x.isWhole = false) ∧
      written (whole ++ later) = joined (whole.map Handover.body) ++ written later ∧
      frames (written (whole ++ later)) = whole.map Handover.body ++ frames (written later)) ∧
    frames (written (handedOver n s c w h cut first last)) =
      linesAfter [] (handedOver n s c w h cut first last) ∧
    remainder (written (handedOver n s c w h cut first last)) =
      startAfter [] (handedOver n s c w h cut first last) := by
  refine ⟨fun k => exists_tick _ _ _, handedOver_message n s c w h cut, ?_⟩
  have hsent := handedOver_fair n s c w h cut first last
  generalize handedOver n s c w h cut first last = xs at hsent ⊢
  have hfair : ∀ x ∈ xs, x.Fair := fun x hx => (hsent x hx).1
  refine ⟨hsent, ?_, ?_⟩
  · obtain ⟨whole, later, rfl, hwhole, hlater⟩ := exists_whole xs
    have hwholefair : ∀ x ∈ whole, x.Fair := fun x hx => hfair x (List.mem_append_left _ hx)
    have hwritten : written (whole ++ later) =
        joined (whole.map Handover.body) ++ written later := by
      rw [written_append, written_of_whole hwholefair hwhole]
    refine ⟨whole, later, rfl, hwhole, hlater, hwritten, ?_⟩
    rw [hwritten]
    exact frames_joined_append (newline_not_mem_of_mem_bodies hwholefair) _
  · exact frames_written hfair List.not_mem_nil

end Server
end

namespace Server

open Arrival (portion)
open Schedule (pause)

/-- A visitor to whom the greeting cannot be sent, and who asks for a value later. -/
def severed : Schedule :=
  ⟨[.caller (.visitor ⟨pause ::
    portion "\x7b\"type\": \"evaluate\", \"expression\": \"6 * 7\"\x7d\n",
    ⟨.ok [], ends_nil⟩, [.refused], .done⟩)], []⟩

/-- The start of the greeting and the response after it are one line. -/
theorem severed_joined :
    (handedOver 2 started (Context.new "<repl>" : Context scripts) severed 0 (fun _ => 8)
      0 9).map Handover.isWhole = [false, true] ∧
    frames (written (handedOver 2 started (Context.new "<repl>" : Context scripts) severed 0
      (fun _ => 8) 0 9)) = [Utf8.encodeReplacing
        "\x7b\"type\":\x7b\"type\":\"eval_result\",\"success\":true,\"result\":\"42\"\x7d"] := by
  decide +kernel

end Server

end LiveConsole.Net
