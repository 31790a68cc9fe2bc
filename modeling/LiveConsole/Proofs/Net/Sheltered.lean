import LiveConsole.Proofs.Net.Orderly
import LiveConsole.Proofs.Net.Schedule

/-!
# Sheltered networks

Scheduled networks in which sockets can always be closed. It is also laid down how sockets are bound, and
whether they can tell their address.
-/

namespace LiveConsole
set_option autoImplicit false

theorem ErrorKind.isA_systemError_of_connectionError (k : ErrorKind)
    (h : k.isA .connectionError = true) : k.isA .systemError = true := by
  revert h
  cases k <;> decide

namespace Net

theorem Systemic.ok {α : Type} (x : α) : Systemic (.ok x : Except Fault α) :=
  fun _ h => by contradiction

theorem Systemic.error {α : Type} {f : Fault} (hf : f.isA .systemError = true) :
    Systemic (.error f : Except Fault α) :=
  fun _ h => Except.error.inj h ▸ hf

namespace Schedule

variable (w : Schedule) (h : Nat)

theorem systemic_accept : Systemic (accept w).1 := by
  unfold accept
  rcases w.knocks with _ | ⟨f | x, later⟩
  · exact .error (by decide)
  · exact .error f.property
  · exact .ok _

theorem systemic_setTimeout : Systemic (setTimeout h w).1 := by
  unfold setTimeout
  rcases w.met[h]? with _ | v | ⟨f, closing⟩
  · exact .ok ()
  · exact .ok ()
  · exact .error f.property

theorem systemic_of_ends {a : Except Fault (List UInt8)} (ha : Ends a) : Systemic a := by
  intro f hf
  rcases ha with rfl | ⟨e, rfl, he⟩
  · contradiction
  · obtain rfl := Except.error.inj hf
    exact ErrorKind.isA_systemError_of_connectionError _ he

theorem systemic_receive : Systemic (receive h w).1 := by
  unfold receive
  rcases w.met[h]? with _ | v | ⟨f, closing⟩
  · exact .error (by decide)
  · dsimp only
    rcases v.arrivals with _ | ⟨⟨first, more⟩ | ⟨f, hf, _⟩, later⟩
    · exact systemic_of_ends v.ending.property
    · exact .ok _
    · exact .error hf
  · exact .error (by decide)

theorem systemic_sendAll : Systemic (sendAll h w).1 := by
  unfold sendAll
  rcases w.met[h]? with _ | v | ⟨f, closing⟩
  · exact .error (by decide)
  · dsimp only
    rcases v.sends with _ | ⟨a, later⟩
    · exact .ok ()
    · exact a.property
  · exact .error (by decide)

end Schedule

structure Sheltered where
  schedule : Schedule
  /-- How the next sockets are bound; after them, all can be. -/
  bindings : List Reply
  /-- What comes of asking the next sockets for their address; after them, all can tell it. -/
  namings : List Reply

namespace Sheltered

variable {α : Type}

/-- A call as it is scheduled. -/
def scheduled (call : Schedule → α × Schedule) (w : Sheltered) : α × Sheltered :=
  ((call w.schedule).1, { w with schedule := (call w.schedule).2 })

def bind (w : Sheltered) : Except Fault Unit × Sheltered :=
  match w.bindings with
  | [] => (.ok (), w)
  | a :: later => (a.val, { w with bindings := later })

def endpoint (w : Sheltered) : Except Fault Endpoint × Sheltered :=
  match w.namings with
  | [] => (.ok ⟨"127.0.0.1", 0⟩, w)
  | a :: later => (a.val.map fun _ => ⟨"127.0.0.1", 0⟩, { w with namings := later })

/-- Closes a socket, whatever is scheduled. -/
def close (h : Nat) (w : Sheltered) : Except Fault Unit × Sheltered :=
  (.ok (), (scheduled (Schedule.close h) w).2)

instance : Sockets Sheltered Nat where
  create w := (.ok 0, w)
  reuseAddress _ w := (.ok (), w)
  bind _ _ _ := bind
  listen _ _ w := (.ok (), w)
  setTimeout h _ := scheduled (Schedule.setTimeout h)
  accept _ := scheduled Schedule.accept
  receive h _ := scheduled (Schedule.receive h)
  sendAll h _ := scheduled (Schedule.sendAll h)
  close := close
  connect _ _ _ w := (.error Schedule.tryAgain, w)
  endpoint _ := endpoint
  note _ w := w

theorem systemic_bind (w : Sheltered) : Systemic (bind w).1 := by
  unfold bind
  rcases w.bindings with _ | ⟨a, later⟩
  · exact .ok ()
  · exact a.property

theorem systemic_endpoint (w : Sheltered) : Systemic (endpoint w).1 := by
  unfold endpoint
  rcases w.namings with _ | ⟨⟨f | u, ha⟩, later⟩
  · exact .ok _
  · exact .error (ha f rfl)
  · exact .ok _

theorem orderly : Orderly Sheltered where
  starts :=
    { create := fun h => Systemic.ok 0 _ (congrArg Prod.fst h)
      reuseAddress := fun h => Systemic.ok () _ (congrArg Prod.fst h)
      bind := fun h => systemic_bind _ _ (congrArg Prod.fst h)
      listen := fun h => Systemic.ok () _ (congrArg Prod.fst h)
      setTimeout := fun h => Schedule.systemic_setTimeout _ _ _ (congrArg Prod.fst h) }
  endpoint h := systemic_endpoint _ _ (congrArg Prod.fst h)
  accept h := Schedule.systemic_accept _ _ (congrArg Prod.fst h)
  receive h := Schedule.systemic_receive _ _ _ (congrArg Prod.fst h)
  sendAll h := Schedule.systemic_sendAll _ _ _ (congrArg Prod.fst h)
  close h := (congrArg Prod.fst h).symm

def inUse : Reply :=
  ⟨.error ⟨.systemError, [.int 98, .text "Address already in use"]⟩, by decide⟩

def noBuffers : Reply :=
  ⟨.error ⟨.systemError, [.int 105, .text "No buffer space available"]⟩, by decide⟩

end Sheltered
end Net
end LiveConsole
