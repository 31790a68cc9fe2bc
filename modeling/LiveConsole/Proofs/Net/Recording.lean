import LiveConsole.Net.Sockets

/-!
# Networks with a record

A record of the calls by which connections are met, used and left, kept beside any network. Whatever
serves a network also serves the network with its record.
-/

namespace LiveConsole.Net
set_option autoImplicit false

/-- A call with its answer. -/
inductive Exchange (H : Type) where
  | accepted (server : H) (answer : Except Fault (H × Endpoint))
  | timed (socket : H) (answer : Except Fault Unit)
  | received (socket : H) (size : Nat) (answer : Except Fault (List UInt8))
  | sent (socket : H) (data : List UInt8) (answer : Except Fault Unit)
  | closed (socket : H) (answer : Except Fault Unit)

/-- Whether a call that failed did so with a fault of the socket system. -/
def Systemic {α : Type} (answer : Except Fault α) : Prop :=
  ∀ f, answer = .error f → f.isA .systemError = true

instance {α : Type} : (answer : Except Fault α) → Decidable (Systemic answer)
  | .ok _ => isTrue fun _ h => nomatch h
  | .error f => decidable_of_iff (f.isA .systemError = true)
    ⟨fun hf _ h => Except.error.inj h ▸ hf, fun h => h f rfl⟩

/-- The end of a stream, or the loss of its connection. -/
def Ends (answer : Except Fault (List UInt8)) : Prop :=
  answer = .ok [] ∨ ∃ f, answer = .error f ∧ f.isA .connectionError = true

theorem ends_nil : Ends (.ok []) := .inl rfl

/-- Faults are those of the socket system, and no more is received than was asked for. -/
def Exchange.Ordinary {H : Type} : Exchange H → Prop
  | .accepted _ answer => Systemic answer
  | .timed _ answer | .sent _ _ answer | .closed _ answer => Systemic answer
  | .received _ size answer =>
    Systemic answer ∧ ∀ chunk, answer = .ok chunk → chunk.length ≤ size

instance {H : Type} : (x : Exchange H) → Decidable x.Ordinary
  | .accepted _ answer => inferInstanceAs (Decidable (Systemic answer))
  | .timed _ answer | .sent _ _ answer | .closed _ answer =>
    inferInstanceAs (Decidable (Systemic answer))
  | .received _ size (.ok chunk) => decidable_of_iff (chunk.length ≤ size)
    ⟨fun hle => ⟨fun _ h => (nomatch h), fun _ h => Except.ok.inj h ▸ hle⟩, fun h => h.2 chunk rfl⟩
  | .received _ _ (.error f) => decidable_of_iff (f.isA .systemError = true)
    ⟨fun hf => ⟨fun _ h => Except.error.inj h ▸ hf, fun _ h => (nomatch h)⟩, fun h => h.1 f rfl⟩

structure Recorded (W H : Type) where
  world : W
  exchanges : List (Exchange H)

namespace Recorded

variable {W H α : Type}

/-- A call that goes on record. -/
def keep (call : W → α × W) (exchange : α → Exchange H) (r : Recorded W H) : α × Recorded W H :=
  ((call r.world).1, ⟨(call r.world).2, r.exchanges ++ [exchange (call r.world).1]⟩)

/-- A call that does not. -/
def pass (call : W → α × W) (r : Recorded W H) : α × Recorded W H :=
  ((call r.world).1, ⟨(call r.world).2, r.exchanges⟩)

/-- What came of a call, without the record. -/
def plain {β : Type} (outcome : α × β × Recorded W H) : α × β × W :=
  (outcome.1, outcome.2.1, outcome.2.2.world)

instance [Sockets W H] : Sockets (Recorded W H) H where
  create := pass Sockets.create
  reuseAddress h := pass (Sockets.reuseAddress h)
  bind h host port := pass (Sockets.bind h host port)
  listen h backlog := pass (Sockets.listen h backlog)
  setTimeout h t := keep (Sockets.setTimeout h t) (.timed h)
  accept h := keep (Sockets.accept h) (.accepted h)
  receive h size := keep (Sockets.receive h size) (.received h size)
  sendAll h data := keep (Sockets.sendAll h data) (.sent h data)
  close h := keep (Sockets.close h) (.closed h)
  connect host port t := pass (Sockets.connect host port t)
  endpoint h := pass (Sockets.endpoint h)
  note n r := ⟨Sockets.note n r.world, r.exchanges⟩

theorem keep_of_eq {call : W → α × W} {exchange : α → Exchange H} {r : Recorded W H} {a : α} {w : W}
    (hcall : call r.world = (a, w)) :
    keep call exchange r = (a, ⟨w, r.exchanges ++ [exchange a]⟩) := by
  rw [keep, hcall]

variable [Sockets W H] {r : Recorded W H} {w : W} {h : H}

theorem accept_of_eq {a : Except Fault (H × Endpoint)} (hw : Sockets.accept h r.world = (a, w)) :
    Sockets.accept h r = (a, ⟨w, r.exchanges ++ [.accepted h a]⟩) :=
  keep_of_eq hw

theorem setTimeout_of_eq {t : Datum.Quantity} {a : Except Fault Unit}
    (hw : Sockets.setTimeout h t r.world = (a, w)) :
    Sockets.setTimeout h t r = (a, ⟨w, r.exchanges ++ [.timed h a]⟩) :=
  keep_of_eq hw

theorem receive_of_eq {size : Nat} {a : Except Fault (List UInt8)}
    (hw : Sockets.receive h size r.world = (a, w)) :
    Sockets.receive h size r = (a, ⟨w, r.exchanges ++ [.received h size a]⟩) :=
  keep_of_eq hw

theorem sendAll_of_eq {data : List UInt8} {a : Except Fault Unit}
    (hw : Sockets.sendAll h data r.world = (a, w)) :
    Sockets.sendAll h data r = (a, ⟨w, r.exchanges ++ [.sent h data a]⟩) :=
  keep_of_eq hw

theorem close_of_eq {a : Except Fault Unit} (hw : Sockets.close h r.world = (a, w)) :
    Sockets.close h r = (a, ⟨w, r.exchanges ++ [.closed h a]⟩) :=
  keep_of_eq hw

@[simp] theorem exchanges_note (r : Recorded W H) (n : Notice) :
    (Sockets.note n r).exchanges = r.exchanges := rfl

@[simp] theorem world_note (r : Recorded W H) (n : Notice) :
    (Sockets.note n r).world = Sockets.note n r.world := rfl

end Recorded

end LiveConsole.Net
