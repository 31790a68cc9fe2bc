import LiveConsole.Console.Scripts
import LiveConsole.Proofs.Net.Serving

/-!
# Serving in order

However octets arrive and whenever callers come, a running server ends up having sent each of them its
greeting and then one response for each of its requests, and its context is the one in which all
requests were evaluated one after the other.
-/

namespace LiveConsole.Net
set_option autoImplicit false

open Evaluator (evaluateAll contextAfter)

variable {L : Language}

/-- The callers that knock, in their order. -/
def callers (knocks : List Knock) : List Caller := knocks.filterMap Knock.caller?

/-- What was sent on a connection. -/
def sentOn (h : Nat) (xs : List (Exchange Nat)) : List (List UInt8) :=
  ((sends xs).filter (·.1 == h)).map Prod.snd

/-- What is sent on a connection if the context is `c` before the first of the callers comes. -/
def responsesOn (banner : Text) (c : Context L) (xs : List Caller) (h : Nat) : List Response :=
  match xs[h]? with
  | none => []
  | some x => x.responses banner (contextAfter c ((xs.take h).flatMap (Caller.asked L.room)))

namespace Schedule

/-- A network in which nothing has happened so far. -/
def fresh (knocks : List Knock) : Recorded Schedule Nat := ⟨⟨knocks, []⟩, []⟩

/-- Nobody comes any more, and all octets were read. -/
def Spent (w : Schedule) : Prop :=
  w.knocks = [] ∧ ∀ v, Caller.visitor v ∈ w.met → v.arrivals = []

end Schedule

theorem le_of_mem_due {banner : Text} {xs : List Caller} {x : Nat × Response} {k : Nat}
    {c : Context L} (hx : x ∈ due banner k c xs) : k ≤ x.1 := by
  induction xs generalizing k c with
  | nil => contradiction
  | cons y later ih =>
    rcases List.mem_append.mp hx with hx | hx
    · obtain ⟨r, _, rfl⟩ := List.mem_map.mp hx
      exact Nat.le_refl k
    · exact Nat.le_of_succ_le (ih hx)

theorem filter_due_of_lt {banner : Text} {xs : List Caller} {h k : Nat} {c : Context L}
    (hlt : h < k) : (due banner k c xs).filter (·.1 == h) = [] := by
  rw [List.filter_eq_nil_iff]
  intro x hx
  have hle := le_of_mem_due hx
  simp only [beq_iff_eq]
  omega

theorem filter_map_pair (k h : Nat) (rs : List Response) :
    ((rs.map (k, ·)).filter (·.1 == h)).map Prod.snd = if k = h then rs else [] := by
  split
  · next heq => simp [List.filter_map, Function.comp_def, heq]
  · next hne => simp [List.filter_map, Function.comp_def, hne]

theorem responsesOn_succ (banner : Text) (c : Context L) (x : Caller) (later : List Caller)
    (h : Nat) : responsesOn banner c (x :: later) (h + 1) =
      responsesOn banner (evaluateAll c (x.asked L.room)).2 later h := by
  rw [responsesOn, responsesOn, Evaluator.evaluateAll_snd, List.getElem?_cons_succ,
    List.take_succ_cons, List.flatMap_cons, contextAfter, List.foldl_append]
  rfl

/-- Each connection gets what is meant for its caller. -/
theorem filter_due (banner : Text) (xs : List Caller) (h k : Nat) (c : Context L) :
    ((due banner k c xs).filter (·.1 == h + k)).map Prod.snd = responsesOn banner c xs h := by
  induction xs generalizing h k c with
  | nil => rfl
  | cons x later ih =>
    rw [due, List.filter_append, List.map_append, filter_map_pair]
    cases h with
    | zero =>
      rw [filter_due_of_lt (by omega), if_pos (Nat.zero_add k).symm]
      exact List.append_nil _
    | succ h =>
      have hsame : h + 1 + k = h + (k + 1) := by omega
      rw [if_neg (by omega), hsame, ih, responsesOn_succ, List.nil_append]

theorem Knock.effort_pos (k : Knock) : 0 < k.effort := by
  cases k with
  | nobody f => exact Nat.one_pos
  | caller x =>
    cases x with
    | visitor v => exact Nat.succ_pos _
    | unusable f closing => exact Nat.one_pos

/-- Without effort nothing is left to do. -/
theorem Due.finished {settings : Settings} {banner : Text} {s : Server Nat} {c final : Context L}
    {w : Schedule} {todo : List (Nat × Response)} {effort : Nat}
    (hdue : Due settings banner s c w todo final effort) (hzero : effort = 0) :
    todo = [] ∧ final = c ∧ s.listener.client = none ∧ w.Spent := by
  cases hdue with
  | held hl hfits => omega
  | vacant hl =>
    have hknocks : w.knocks = [] := by
      cases hw : w.knocks with
      | nil => rfl
      | cons k later =>
        have hpos := k.effort_pos
        have heffort := Schedule.effort_of_knock hw w.met
        omega
    have hawaited : w.awaited = [] := by
      rw [Schedule.awaited, hknocks]
      rfl
    refine ⟨?_, ?_, hl.client_eq, hknocks, ?_⟩
    · rw [Schedule.due, hawaited]
      rfl
    · rw [Schedule.final, hawaited]
      rfl
    · intro v hv
      obtain ⟨k, hk⟩ := List.mem_iff_getElem?.mp hv
      exact hl.spent k v hk

theorem sentOn_eq_responsesOn {banner : Text} {c : Context L} {xs : List Caller}
    {exchanges : List (Exchange Nat)} (h : Nat)
    (hsends : (sends exchanges).map handed = (due banner 0 c xs).map encoded) :
    (sentOn h exchanges).map Except.ok = (responsesOn banner c xs h).map Response.encode := by
  have hfilter := congrArg (fun ys => (ys.filter (·.1 == h)).map Prod.snd) hsends
  rw [← filter_due banner xs h 0 c, Nat.add_zero]
  simpa [List.filter_map, Function.comp_def, handed, encoded, sentOn] using hfilter

namespace Server

open Schedule (fresh)

theorem ticks_succ {W H : Type} [Sockets W H] (n : Nat) (s : Server H) (c : Context L) (w : W) :
    s.ticks (n + 1) c w = ((s.ticks n c w).1.tick (s.ticks n c w).2.1 (s.ticks n c w).2.2).2 := by
  induction n generalizing s c w with
  | zero => rfl
  | succ n ih =>
    exact ih (s.tick c w).2.1 (s.tick c w).2.2.1 (s.tick c w).2.2.2

theorem serves_in_order {s : Server Nat} (c : Context L) (knocks : List Knock) (banner : Text)
    (harises : s.Arises) (hrun : s.running = true) (hclient : s.listener.client = none)
    (hbanner : s.listener.settings.banner = .text banner)
    (hfits : ∀ v, Caller.visitor v ∈ callers knocks → Fits s.listener.settings v.stream) :
    (∃ bound, ∀ n ≥ bound, ∃ s' r',
      s.ticks n c (fresh knocks) =
        (s', contextAfter c ((callers knocks).flatMap (Caller.asked L.room)), r') ∧
      s'.listener.client = none ∧ r'.world.Spent ∧
      ∀ h, (sentOn h r'.exchanges).map Except.ok =
        (responsesOn banner c (callers knocks) h).map Response.encode) ∧
    ∀ n, ∃ greeting answer : List (Nat × Response),
      (sends (s.ticks (n + 1) c (fresh knocks)).2.2.exchanges).map handed =
        (sends (s.ticks n c (fresh knocks)).2.2.exchanges).map handed ++
          (greeting ++ answer).map encoded ∧
      (greeting = [] ∨ ∃ h, greeting = [(h, .connected (.text banner))]) ∧ answer.length ≤ 1 := by
  have hready : Ready s.listener.settings s :=
    ⟨hrun, Option.isSome_iff_exists.mp (harises.isBound hrun), rfl⟩
  have hvacant : Vacant s.listener (fresh knocks).world :=
    ⟨hclient, fun k v hk => by contradiction⟩
  have hdue : Due s.listener.settings banner s c (fresh knocks).world _ _ _ := .vacant hvacant
  constructor
  · refine ⟨(fresh knocks).world.effort, ?_⟩
    intro n hn
    obtain ⟨s', c', r', now, hticks, hadvanced⟩ :=
      ticks_of_due (r := fresh knocks) n hready hbanner hfits hdue
    obtain ⟨later, effort, htodo, hlater, hle⟩ := hadvanced.due
    obtain ⟨rfl, hfinal, hclient', hspent⟩ := hlater.finished (by omega)
    refine ⟨s', r', ?_, hclient', hspent, ?_⟩
    · rw [hticks, ← hfinal, ← Evaluator.evaluateAll_snd]
      rfl
    · intro h
      refine sentOn_eq_responsesOn h ?_
      rw [hadvanced.sends_eq, ← List.append_nil now, ← htodo]
      rfl
  · intro n
    obtain ⟨s', c', r', now, hticks, hadvanced⟩ :=
      ticks_of_due (r := fresh knocks) n hready hbanner hfits hdue
    obtain ⟨later, effort, htodo, hlater, hle⟩ := hadvanced.due
    obtain ⟨a, s'', c'', r'', greeting, answer, htick, hgreeting, hlength, hnext⟩ :=
      tick_of_due hadvanced.ready hbanner hadvanced.fits hlater
    refine ⟨greeting, answer, ?_, hgreeting, hlength⟩
    rw [ticks_succ, hticks, htick]
    exact hnext.sends_eq

/-- A server that was started in a network to which nobody comes. -/
def started : Server Nat := ((Server.new Settings.initial).start (fresh []).world).2.1

theorem arises_started : started.Arises := .start _ (.new _)

open Arrival (portion)
open Schedule (nobody pause)

/-- The first visitor sends a request in two portions, with a pause between them, and a line that is no
request; nothing can be sent to it. The second one leaves a line unfinished and is lost. -/
def twoVisitors : List Knock :=
  [nobody,
    .caller (.visitor ⟨portion "\x7b\"type\": \"evaluate\", " ++ pause ::
      portion "\"expression\": \"x = 6\"\x7d\r\nx\n", ⟨.ok [], ends_nil⟩,
      [.refused, .refused], .refused⟩),
    .caller (.unusable ⟨Schedule.badDescriptor, by decide⟩ .done),
    .caller (.visitor ⟨portion "\x7b\"type\": \"evaluate\", \"expression\": \"x * 7\"\x7d\n\x7b",
      ⟨.error ⟨.connectionResetError, []⟩, .inr ⟨_, rfl, by decide⟩⟩, [], .done⟩)]

theorem fits_twoVisitors : ∀ v, Caller.visitor v ∈ callers twoVisitors →
    Fits started.listener.settings v.stream := by
  intro v hv
  change _ ∈ [_, _, _] at hv
  simp only [List.mem_cons, List.not_mem_nil, or_false] at hv
  rcases hv with hv | hv | hv
  · obtain rfl := Caller.visitor.inj hv
    unfold Fits
    decide +kernel
  · contradiction
  · obtain rfl := Caller.visitor.inj hv
    unfold Fits
    decide +kernel

theorem twoVisitors_served :
    (∀ v, Caller.visitor v ∈ callers twoVisitors → Fits started.listener.settings v.stream) ∧
    ∃ bound, ∀ n ≥ bound, ∃ s' r',
      started.ticks n (Context.new "<repl>" : Context scripts) (fresh twoVisitors) =
        (s', contextAfter (Context.new "<repl>")
          ((callers twoVisitors).flatMap (Caller.asked scripts.room)), r') ∧
      s'.listener.client = none ∧ r'.world.Spent ∧
      ∀ h, (sentOn h r'.exchanges).map Except.ok = (responsesOn "UE4SS REPL ready!"
        (Context.new "<repl>" : Context scripts) (callers twoVisitors) h).map Response.encode :=
  ⟨fits_twoVisitors, (serves_in_order (Context.new "<repl>") twoVisitors "UE4SS REPL ready!"
    arises_started rfl rfl rfl fits_twoVisitors).1⟩

end Server

end LiveConsole.Net
