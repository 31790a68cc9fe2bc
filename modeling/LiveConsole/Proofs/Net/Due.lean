import LiveConsole.Proofs.Console.Requests
import LiveConsole.Proofs.Net.Attending
import LiveConsole.Net.Server

/-!
# What is due

What a server in a scheduled network has still to send at a certain time, and the context that it will
have in the end. Both follow from the streams of the callers alone, whatever the portions and pauses in
which they arrive.
-/

namespace LiveConsole.Net
set_option autoImplicit false

open Evaluator (evaluateAll)
open Request (asked asked?)

variable {L : Language}

/-- The expressions that a caller asks for. -/
def Caller.asked (room : Nat) : Caller → List Text
  | .visitor v => Request.asked room v.stream
  | .unusable _ _ => []

/-- What is sent to a caller that is accepted when the context is `c`. -/
def Caller.responses (banner : Text) (c : Context L) : Caller → List Response
  | .visitor v => .connected (.text banner) :: (evaluateAll c (Request.asked L.room v.stream)).1
  | .unusable _ _ => []

/-- What is sent to callers, with the numbers of their connections, which begin at `h`. -/
def due (banner : Text) : Nat → Context L → List Caller → List (Nat × Response)
  | _, _, [] => []
  | h, c, x :: later =>
    (x.responses banner c).map (h, ·) ++ due banner (h + 1) (evaluateAll c (x.asked L.room)).2 later

def Knock.effort : Knock → Nat
  | .nobody _ | .caller (.unusable _ _) => 1
  | .caller (.visitor v) => v.effort + 2

def Schedule.effort (w : Schedule) : Nat := (w.knocks.map Knock.effort).sum

/-- What is sent to the callers still to come, if the context is `c` by now. -/
def Schedule.due (banner : Text) (c : Context L) (w : Schedule) : List (Nat × Response) :=
  Net.due banner w.met.length c w.awaited

/-- The context after all callers. -/
def Schedule.final (c : Context L) (w : Schedule) : Context L :=
  (evaluateAll c (w.awaited.flatMap (Caller.asked L.room))).2

/-- The same if the rest of a stream comes before them. -/
def Schedule.dueOn (banner : Text) (h : Nat) (stream : List UInt8) (c : Context L) (w : Schedule) :
    List (Nat × Response) :=
  (evaluateAll c (asked L.room stream)).1.map (h, ·) ++
    w.due banner (evaluateAll c (asked L.room stream)).2

def Schedule.finalOn (stream : List UInt8) (c : Context L) (w : Schedule) : Context L :=
  w.final (evaluateAll c (asked L.room stream)).2

/-- What a server in a schedule has still to send, the context in the end, and a bound for the ticks
that this takes. -/
inductive Due (settings : Settings) (banner : Text) (s : Server Nat) (c : Context L) (w : Schedule) :
    List (Nat × Response) → Context L → Nat → Prop where
  | vacant (hl : Vacant s.listener w) :
      Due settings banner s c w (w.due banner c) (w.final c) w.effort
  | held {h effort : Nat} {stream : List UInt8} (hl : Held s.listener w h stream effort)
      (hfits : Fits settings stream) :
      Due settings banner s c w (w.dueOn banner h stream c) (w.finalOn stream c)
        (effort + 1 + w.effort)

/-- A running server with certain settings. -/
structure Ready (settings : Settings) (s : Server Nat) : Prop where
  running : s.running = true
  bound : ∃ server, s.listener.server = some server
  settings_eq : s.listener.settings = settings

def encoded (x : Nat × Response) : Nat × Except Digits.TooLong (List UInt8) := (x.1, x.2.encode)

def handed (x : Nat × List UInt8) : Nat × Except Digits.TooLong (List UInt8) := (x.1, .ok x.2)

/-- What became of a server that had certain things to send, and sent some of them now. -/
structure Advanced (settings : Settings) (banner : Text) (r : Recorded Schedule Nat)
    (todo now : List (Nat × Response)) (final : Context L) (bound : Nat) (s : Server Nat)
    (c : Context L) (r' : Recorded Schedule Nat) : Prop where
  due : ∃ later effort, todo = now ++ later ∧
    Due settings banner s c r'.world later final effort ∧ effort ≤ bound
  ready : Ready settings s
  fits : ∀ v, Caller.visitor v ∈ r'.world.awaited → Fits settings v.stream
  sends_eq : (sends r'.exchanges).map handed = (sends r.exchanges).map handed ++ now.map encoded

namespace Advanced

variable {settings : Settings} {banner : Text} {r r₁ r' : Recorded Schedule Nat}
variable {todo before now : List (Nat × Response)} {final c : Context L} {bound bound' : Nat}
variable {s : Server Nat}

theorem mono (h : Advanced settings banner r todo now final bound s c r')
    (hle : bound ≤ bound') : Advanced settings banner r todo now final bound' s c r' := by
  obtain ⟨later, effort, htodo, hdue, heffort⟩ := h.due
  exact ⟨⟨later, effort, htodo, hdue, Nat.le_trans heffort hle⟩, h.ready, h.fits, h.sends_eq⟩

/-- Nothing was sent. -/
theorem silent {effort : Nat} (hdue : Due settings banner s c r'.world todo final effort)
    (hready : Ready settings s)
    (hcoming : ∀ v, Caller.visitor v ∈ r'.world.awaited → Fits settings v.stream)
    (hsends : sends r'.exchanges = sends r.exchanges) (hle : effort ≤ bound) :
    Advanced settings banner r todo [] final bound s c r' := by
  refine ⟨⟨todo, effort, rfl, hdue, hle⟩, hready, hcoming, ?_⟩
  rw [hsends, List.map_nil, List.append_nil]

/-- Something was sent before. -/
theorem after (h : Advanced settings banner r₁ todo now final bound s c r')
    (hsends : (sends r₁.exchanges).map handed =
      (sends r.exchanges).map handed ++ before.map encoded) :
    Advanced settings banner r (before ++ todo) (before ++ now) final bound s c r' := by
  obtain ⟨later, effort, rfl, hdue, heffort⟩ := h.due
  refine ⟨⟨later, effort, (List.append_assoc _ _ _).symm, hdue, heffort⟩, h.ready, h.fits, ?_⟩
  rw [h.sends_eq, hsends, List.map_append, List.append_assoc]

end Advanced

namespace Schedule

variable {banner : Text} {c : Context L} {w : Schedule} {h : Nat}

theorem dueOn_line {line : List UInt8} (hline : newline ∉ line) (more : List UInt8) :
    w.dueOn banner h (line ++ newline :: more) c =
      (evaluateAll c (asked? L.room line).toList).1.map (h, ·) ++
        w.dueOn banner h more (evaluateAll c (asked? L.room line).toList).2 := by
  rw [dueOn, Request.asked_line hline, Evaluator.evaluateAll_append, List.map_append,
    List.append_assoc, dueOn]

theorem finalOn_line {line : List UInt8} (hline : newline ∉ line) (more : List UInt8) :
    w.finalOn (line ++ newline :: more) c =
      w.finalOn more (evaluateAll c (asked? L.room line).toList).2 := by
  rw [finalOn, Request.asked_line hline, Evaluator.evaluateAll_append, finalOn]

theorem dueOn_of_not_mem {stream : List UInt8} (hn : newline ∉ stream) :
    w.dueOn banner h stream c = w.due banner c := by
  rw [dueOn, Request.asked_of_not_mem hn]
  rfl

theorem finalOn_of_not_mem {stream : List UInt8} (hn : newline ∉ stream) :
    w.finalOn stream c = w.final c := by
  rw [finalOn, Request.asked_of_not_mem hn]
  rfl

/-! What is due changes with each knock. -/

variable {later : List Knock}

theorem effort_of_knock {k : Knock} (hw : w.knocks = k :: later) (met : List Caller) :
    w.effort = k.effort + effort ⟨later, met⟩ := by
  rw [effort, hw]
  rfl

theorem awaited_of_nobody {f : SystemFault} (hw : w.knocks = .nobody f :: later) :
    w.awaited = awaited { w with knocks := later } := by
  rw [awaited, hw]
  rfl

theorem awaited_of_caller {x : Caller} (hw : w.knocks = .caller x :: later) (met : List Caller) :
    w.awaited = x :: awaited ⟨later, met⟩ := by
  rw [awaited, hw]
  rfl

theorem due_of_nobody {f : SystemFault} (hw : w.knocks = .nobody f :: later) :
    w.due banner c = due banner c { w with knocks := later } := by
  rw [due, awaited_of_nobody hw]
  rfl

theorem due_of_unusable {f : SystemFault} {closing : Reply}
    (hw : w.knocks = .caller (.unusable f closing) :: later) :
    w.due banner c = due banner c ⟨later, w.met ++ [.unusable f closing]⟩ := by
  rw [due, awaited_of_caller hw, due, List.length_append]
  rfl

theorem final_of_unusable {f : SystemFault} {closing : Reply}
    (hw : w.knocks = .caller (.unusable f closing) :: later) (met : List Caller) :
    w.final c = final c ⟨later, met⟩ := by
  rw [final, awaited_of_caller hw met]
  rfl

theorem due_of_visitor {v : Visitor} (hw : w.knocks = .caller (.visitor v) :: later) :
    w.due banner c = (w.met.length, .connected (.text banner)) ::
      dueOn banner w.met.length v.stream c ⟨later, w.met ++ [.visitor v]⟩ := by
  rw [due, awaited_of_caller hw, dueOn, due, List.length_append]
  rfl

theorem final_of_visitor {v : Visitor} (hw : w.knocks = .caller (.visitor v) :: later)
    (met : List Caller) : w.final c = finalOn v.stream c ⟨later, met⟩ := by
  rw [final, awaited_of_caller hw met, List.flatMap_cons, Evaluator.evaluateAll_append]
  rfl

end Schedule

namespace Steady

variable {new : List (Nat × List UInt8)} {r r' : Recorded Schedule Nat} (hsteady : Steady new r r')
include hsteady

theorem awaited_eq : r'.world.awaited = r.world.awaited := by
  rw [Schedule.awaited, hsteady.knocks_eq, Schedule.awaited]

theorem effort_eq : r'.world.effort = r.world.effort := by
  rw [Schedule.effort, hsteady.knocks_eq, Schedule.effort]

theorem final_eq (c : Context L) : r'.world.final c = r.world.final c := by
  rw [Schedule.final, hsteady.awaited_eq, Schedule.final]

theorem due_eq (banner : Text) (c : Context L) :
    r'.world.due banner c = r.world.due banner c := by
  rw [Schedule.due, hsteady.awaited_eq, hsteady.length_eq, Schedule.due]

theorem finalOn_eq (stream : List UInt8) (c : Context L) :
    r'.world.finalOn stream c = r.world.finalOn stream c := by
  rw [Schedule.finalOn, hsteady.final_eq, Schedule.finalOn]

theorem dueOn_eq (banner : Text) (h : Nat) (stream : List UInt8) (c : Context L) :
    r'.world.dueOn banner h stream c = r.world.dueOn banner h stream c := by
  rw [Schedule.dueOn, hsteady.due_eq, Schedule.dueOn]

end Steady

end LiveConsole.Net
