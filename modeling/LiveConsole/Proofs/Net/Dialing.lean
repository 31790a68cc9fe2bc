import LiveConsole.Net.Clock
import LiveConsole.Proofs.Net.Schedule

/-!
# Networks to connect to

Scheduled networks as a client meets them. The next caller of the schedule is what answers an attempt to
connect, and a unit of time passes with every look at a socket.
-/

namespace LiveConsole.Net
set_option autoImplicit false

structure Dialing where
  schedule : Schedule
  time : Nat

namespace Dialing

variable {α : Type}

/-- A call as it is scheduled. -/
def scheduled (call : Schedule → α × Schedule) (w : Dialing) : α × Dialing :=
  ((call w.schedule).1, { w with schedule := (call w.schedule).2 })

def connect (w : Dialing) : Except Fault Nat × Dialing :=
  ((scheduled Schedule.accept w).1.map Prod.fst, (scheduled Schedule.accept w).2)

def receive (h : Nat) (w : Dialing) : Except Fault (List UInt8) × Dialing :=
  scheduled (Schedule.receive h) { w with time := w.time + 1 }

instance : Sockets Dialing Nat where
  create w := (.ok 0, w)
  reuseAddress _ w := (.ok (), w)
  bind _ _ _ w := (.ok (), w)
  listen _ _ w := (.ok (), w)
  setTimeout h _ := scheduled (Schedule.setTimeout h)
  accept _ := scheduled Schedule.accept
  receive h _ := receive h
  sendAll h _ := scheduled (Schedule.sendAll h)
  close h := scheduled (Schedule.close h)
  connect _ _ _ := connect
  endpoint _ w := (.ok ⟨"127.0.0.1", 0⟩, w)
  note _ w := w

/-- Whole numbers of seconds are exact; other quantities are not used here. -/
def span : Datum.Quantity → Nat
  | .int n => n.toNat
  | .float _ => 0

instance : Clock Dialing Nat where
  now := time
  span := span
  sleep t w := { w with time := w.time + t }

/-- A connection that yields certain arrivals and then ends. -/
def route (arrivals : List Arrival) : Knock :=
  .caller (.visitor ⟨arrivals, ⟨.ok [], ends_nil⟩, [], .done⟩)

/-- Nothing came in time. -/
def late : Arrival := .pause ⟨.timeoutError, [.text "timed out"]⟩ rfl rfl

end Dialing

end LiveConsole.Net
