import LiveConsole.Proofs.Net.Recording
import LiveConsole.Text.Utf8

/-!
# Scheduled networks

A network in which it is laid down what every call will find: when callers come, which octets arrive on
each connection in which portions and with which pauses, how it ends, and what becomes of the octets
that are sent there. Connections are numbered in the order in which they are accepted. A portion may
be of any size, also larger than what a call asks for.
-/

namespace LiveConsole.Net
set_option autoImplicit false

abbrev SystemFault := { f : Fault // f.isA .systemError = true }

/-- How a call without a result goes. -/
abbrev Reply := { a : Except Fault Unit // Systemic a }

/-- What a connection yields when it is read: a portion of octets, or nothing yet. -/
inductive Arrival where
  | octets (first : UInt8) (more : List UInt8)
  | pause (f : Fault) (systemic : f.isA .systemError = true)
      (quiet : f.isA .connectionError = false)

/-- A peer: what arrives from it until it goes, and how the calls on its connection go. -/
structure Visitor where
  arrivals : List Arrival
  ending : { a : Except Fault (List UInt8) // Ends a }
  sends : List Reply
  closing : Reply

inductive Caller where
  | visitor (v : Visitor)
  /-- Its connection cannot be given a timeout. -/
  | unusable (f : SystemFault) (closing : Reply)

/-- What a look for callers finds. -/
inductive Knock where
  | nobody (f : SystemFault)
  | caller (x : Caller)

structure Schedule where
  knocks : List Knock
  /-- The callers that were accepted, by the numbers of their connections. -/
  met : List Caller

def Arrival.stream : Arrival → List UInt8
  | .octets first more => first :: more
  | .pause _ _ _ => []

/-- All octets that arrive from a peer. -/
def Visitor.stream (v : Visitor) : List UInt8 := v.arrivals.flatMap Arrival.stream

def Knock.caller? : Knock → Option Caller
  | .nobody _ => none
  | .caller x => some x

namespace Schedule

def put (h : Nat) (v : Visitor) (w : Schedule) : Schedule :=
  { w with met := w.met.set h (.visitor v) }

/-- The callers still to come. -/
def awaited (w : Schedule) : List Caller := w.knocks.filterMap Knock.caller?

def tryAgain : Fault := ⟨.blockingError, [.int 11, .text "Resource temporarily unavailable"]⟩

def badDescriptor : Fault := ⟨.systemError, [.int 9, .text "Bad file descriptor"]⟩

/-- Takes the next caller; after the last one nobody comes. -/
def accept (w : Schedule) : Except Fault (Nat × Endpoint) × Schedule :=
  match w.knocks with
  | [] => (.error tryAgain, w)
  | .nobody f :: later => (.error f.val, { w with knocks := later })
  | .caller x :: later => (.ok (w.met.length, ⟨"127.0.0.1", 0⟩), ⟨later, w.met ++ [x]⟩)

def setTimeout (h : Nat) (w : Schedule) : Except Fault Unit × Schedule :=
  match w.met[h]? with
  | some (.unusable f _) => (.error f.val, w)
  | _ => (.ok (), w)

/-- Reads the next arrival; after the last one the peer is gone. -/
def receive (h : Nat) (w : Schedule) : Except Fault (List UInt8) × Schedule :=
  match w.met[h]? with
  | some (.visitor v) =>
    match v.arrivals with
    | [] => (v.ending.val, w)
    | .octets first more :: later => (.ok (first :: more), w.put h { v with arrivals := later })
    | .pause f _ _ :: later => (.error f, w.put h { v with arrivals := later })
  | _ => (.error badDescriptor, w)

def sendAll (h : Nat) (w : Schedule) : Except Fault Unit × Schedule :=
  match w.met[h]? with
  | some (.visitor v) =>
    match v.sends with
    | [] => (.ok (), w)
    | a :: later => (a.val, w.put h { v with sends := later })
  | _ => (.error badDescriptor, w)

def close (h : Nat) (w : Schedule) : Except Fault Unit × Schedule :=
  match w.met[h]? with
  | some (.visitor v) => (v.closing.val, w)
  | some (.unusable _ closing) => (closing.val, w)
  | none => (.ok (), w)

instance : Sockets Schedule Nat where
  create w := (.ok 0, w)
  reuseAddress _ w := (.ok (), w)
  bind _ _ _ w := (.ok (), w)
  listen _ _ w := (.ok (), w)
  setTimeout h _ := setTimeout h
  accept _ := accept
  receive h _ := receive h
  sendAll h _ := sendAll h
  close := close
  connect _ _ _ w := (.error tryAgain, w)
  endpoint _ w := (.ok ⟨"127.0.0.1", 0⟩, w)
  note _ w := w

variable {w : Schedule} {h k : Nat} {v u : Visitor} {later : List Arrival}

theorem met_put_self (hv : w.met[h]? = some (.visitor v)) :
    (w.put h u).met[h]? = some (.visitor u) := by
  obtain ⟨hlt, _⟩ := List.getElem?_eq_some_iff.mp hv
  exact List.getElem?_set_self hlt

theorem met_put_of_ne (hne : k ≠ h) : (w.put h u).met[k]? = w.met[k]? :=
  List.getElem?_set_ne hne.symm

@[simp] theorem length_met_put : (w.put h u).met.length = w.met.length := List.length_set

theorem receive_of_octets (size : Nat) {first : UInt8} {more : List UInt8}
    (hv : w.met[h]? = some (.visitor v)) (ha : v.arrivals = .octets first more :: later) :
    Sockets.receive h size w = (.ok (first :: more), w.put h { v with arrivals := later }) := by
  change receive h w = _
  simp [receive, hv, ha]

theorem receive_of_pause (size : Nat) {f : Fault} {hs : f.isA .systemError = true}
    {hf : f.isA .connectionError = false} (hv : w.met[h]? = some (.visitor v))
    (ha : v.arrivals = .pause f hs hf :: later) :
    Sockets.receive h size w = (.error f, w.put h { v with arrivals := later }) := by
  change receive h w = _
  simp [receive, hv, ha]

theorem receive_of_nil (size : Nat) (hv : w.met[h]? = some (.visitor v)) (ha : v.arrivals = []) :
    Sockets.receive h size w = (v.ending.val, w) := by
  change receive h w = _
  simp [receive, hv, ha]

theorem close_of_visitor (hv : w.met[h]? = some (.visitor v)) :
    Sockets.close h w = (v.closing.val, w) := by
  change close h w = _
  simp [close, hv]

theorem accept_of_nil {server : Nat} (hw : w.knocks = []) :
    Sockets.accept server w = (.error tryAgain, w) := by
  change accept w = _
  rw [accept, hw]

theorem accept_of_nobody {server : Nat} {f : SystemFault} {later : List Knock}
    (hw : w.knocks = .nobody f :: later) :
    Sockets.accept server w = (.error f.val, { w with knocks := later }) := by
  change accept w = _
  rw [accept, hw]

theorem accept_of_caller {server : Nat} {x : Caller} {later : List Knock}
    (hw : w.knocks = .caller x :: later) :
    Sockets.accept server w = (.ok (w.met.length, ⟨"127.0.0.1", 0⟩), ⟨later, w.met ++ [x]⟩) := by
  change accept w = _
  rw [accept, hw]

theorem setTimeout_of_visitor {t : Datum.Quantity} (hv : w.met[h]? = some (.visitor v)) :
    Sockets.setTimeout h t w = (.ok (), w) := by
  change setTimeout h w = _
  rw [setTimeout, hv]

theorem setTimeout_of_unusable {t : Datum.Quantity} {f : SystemFault} {closing : Reply}
    (hv : w.met[h]? = some (.unusable f closing)) :
    Sockets.setTimeout h t w = (.error f.val, w) := by
  change setTimeout h w = _
  rw [setTimeout, hv]

theorem close_of_unusable {f : SystemFault} {closing : Reply}
    (hv : w.met[h]? = some (.unusable f closing)) : Sockets.close h w = (closing.val, w) := by
  change close h w = _
  rw [close, hv]

/-- Sending changes nothing but what becomes of what is sent later. -/
theorem exists_sendAll_eq (hv : w.met[h]? = some (.visitor v)) (data : List UInt8) :
    ∃ (a : Reply) (sends : List Reply) (w' : Schedule),
      Sockets.sendAll h data w = (a.val, w') ∧ w'.knocks = w.knocks ∧
      w'.met.length = w.met.length ∧ w'.met[h]? = some (.visitor { v with sends := sends }) ∧
      ∀ k, k ≠ h → w'.met[k]? = w.met[k]? := by
  change ∃ (a : Reply) (sends : List Reply) (w' : Schedule), sendAll h w = (a.val, w') ∧ _
  cases hsends : v.sends with
  | nil =>
    refine ⟨⟨.ok (), fun f hf => by contradiction⟩, [], w, ?_, rfl, rfl, ?_, fun _ _ => rfl⟩
    · simp [sendAll, hv, hsends]
    · rw [hv, ← hsends]
  | cons a sends =>
    refine ⟨a, sends, w.put h { v with sends := sends }, ?_, rfl, length_met_put,
      met_put_self hv, fun k hk => met_put_of_ne hk⟩
    simp [sendAll, hv, hsends]

end Schedule

/-- A text that arrives in one portion. -/
def Arrival.portion (t : Text) : List Arrival :=
  match Utf8.encodeReplacing t with
  | [] => []
  | first :: more => [.octets first more]

def Reply.done : Reply := ⟨.ok (), by decide⟩

def Reply.refused : Reply := ⟨.error ⟨.brokenPipeError, []⟩, by decide⟩

namespace Schedule

def nobody : Knock := .nobody ⟨tryAgain, by decide⟩

def pause : Arrival := .pause tryAgain (by decide) (by decide)

end Schedule

end LiveConsole.Net
