import LiveConsole.Net.Listener
import LiveConsole.Proofs.Net.Deeds
import LiveConsole.Proofs.Net.Orderly

/-!
# Ledgers of sockets

A ledger kept beside any network numbers the sockets that a program gets, in the order in which it gets
them, and enters what is done to each. Two sockets never have the same number, even if the network uses
the name of a closed socket again.
-/

namespace LiveConsole.Net
set_option autoImplicit false

structure Numbered (H : Type) where
  number : Nat
  socket : H

structure Ledger (W : Type) where
  world : W
  deeds : List Deed

def failure? {α : Type} : Except Fault α → Option Fault
  | .ok _ => none
  | .error f => some f

namespace Ledger

variable {W H α : Type}

/-- The number of the next socket. -/
def next (r : Ledger W) : Nat := (opened r.deeds).length

/-- A call on a socket. -/
def enter (deed : Option Fault → Deed) (call : W → Except Fault α × W) (r : Ledger W) :
    Except Fault α × Ledger W :=
  ((call r.world).1, ⟨(call r.world).2, r.deeds ++ [deed (failure? (call r.world).1)]⟩)

/-- A call for a socket. -/
def gain (deed : Nat → Deed) (call : W → Except Fault H × W) (r : Ledger W) :
    Except Fault (Numbered H) × Ledger W :=
  match call r.world with
  | (.ok h, w) => (.ok ⟨r.next, h⟩, ⟨w, r.deeds ++ [deed r.next]⟩)
  | (.error f, w) => (.error f, ⟨w, r.deeds ++ [.denied f]⟩)

/-- A call on a socket for another one. -/
def accept (n : Nat) (call : W → Except Fault (H × Endpoint) × W) (r : Ledger W) :
    Except Fault (Numbered H × Endpoint) × Ledger W :=
  match call r.world with
  | (.ok (h, e), w) =>
    (.ok (⟨r.next, h⟩, e), ⟨w, r.deeds ++ [.used n none, .connected r.next]⟩)
  | (.error f, w) => (.error f, ⟨w, r.deeds ++ [.used n (some f)]⟩)

instance [Sockets W H] : Sockets (Ledger W) (Numbered H) where
  create := gain .created Sockets.create
  reuseAddress h := enter (.used h.number) (Sockets.reuseAddress h.socket)
  bind h host port := enter (.used h.number) (Sockets.bind h.socket host port)
  listen h backlog := enter (.used h.number) (Sockets.listen h.socket backlog)
  setTimeout h t := enter (.used h.number) (Sockets.setTimeout h.socket t)
  accept h := accept h.number (Sockets.accept h.socket)
  receive h size := enter (.used h.number) (Sockets.receive h.socket size)
  sendAll h data := enter (.used h.number) (Sockets.sendAll h.socket data)
  close h := enter (.closed h.number) (Sockets.close h.socket)
  connect host port t := gain .connected (Sockets.connect host port t)
  endpoint h := enter (.named h.number) (Sockets.endpoint h.socket)
  note n r := ⟨Sockets.note n r.world, r.deeds⟩

@[simp] theorem deeds_note [Sockets W H] (n : Notice) (r : Ledger W) :
    (Sockets.note n r).deeds = r.deeds := rfl

/-- All that is entered is the use of one socket, up to a failure that is answered. -/
def Uses (n : Nat) (r : Ledger W) (a : Except Fault α) (r' : Ledger W) : Prop :=
  ∃ new, r'.deeds = r.deeds ++ new ∧ (∀ d ∈ new, ∃ f, d = .used n f) ∧
    failures new = (failure? a).toList

theorem Uses.trans {β : Type} {n : Nat} {r r' r'' : Ledger W} {x : α} {a : Except Fault β}
    (h : Uses n r (.ok x : Except Fault α) r') (h' : Uses n r' a r'') : Uses n r a r'' := by
  obtain ⟨new, hdeeds, huses, hfailures⟩ := h
  obtain ⟨new', hdeeds', huses', hfailures'⟩ := h'
  refine ⟨new ++ new', ?_, ?_, ?_⟩
  · rw [hdeeds', hdeeds, List.append_assoc]
  · exact List.forall_mem_append.mpr ⟨huses, huses'⟩
  · rw [failures_append, hfailures, hfailures']
    rfl

/-- One ledger goes on where the other ends, and every socket that was asked could tell its address. -/
structure Extends (r r' : Ledger W) : Prop where
  before : r.deeds <+: r'.deeds
  unnamed_eq : unnamed r'.deeds = unnamed r.deeds

theorem Extends.refl (r : Ledger W) : Extends r r := ⟨List.prefix_refl _, rfl⟩

theorem Extends.trans {r r' r'' : Ledger W} (h : Extends r r') (h' : Extends r' r'') :
    Extends r r'' :=
  ⟨h.before.trans h'.before, h'.unnamed_eq.trans h.unnamed_eq⟩

section Calls
variable {r r' : Ledger W} {deed : Option Fault → Deed} {call : W → Except Fault α × W}
variable {a : Except Fault α}

theorem deeds_of_enter (h : enter deed call r = (a, r')) :
    r'.deeds = r.deeds ++ [deed (failure? a)] := by
  obtain ⟨rfl, rfl⟩ := Prod.mk.inj h
  rfl

/-- What a call answers, it answers in the network. -/
theorem exists_call_of_enter (h : enter deed call r = (a, r')) :
    ∃ w, call r.world = (a, w) := by
  obtain ⟨rfl, _⟩ := Prod.mk.inj h
  exact ⟨_, rfl⟩

theorem uses_of_enter {n : Nat} (h : enter (.used n) call r = (a, r')) : Uses n r a r' := by
  refine ⟨_, deeds_of_enter h, by simp, ?_⟩
  cases a <;> rfl

theorem extends_of_closed {n : Nat} (h : enter (.closed n) call r = (a, r')) : Extends r r' := by
  have hdeeds := deeds_of_enter h
  refine ⟨⟨_, hdeeds.symm⟩, ?_⟩
  rw [hdeeds]
  exact unnamed_concat rfl

section Gain
variable {deed : Nat → Deed} {call : W → Except Fault H × W} {h : Numbered H} {f : Fault}

theorem deeds_of_gain (hcall : gain deed call r = (.ok h, r')) :
    h.number = r.next ∧ r'.deeds = r.deeds ++ [deed r.next] := by
  rcases hw : call r.world with ⟨f | k, w⟩
  · simp [gain, hw] at hcall
  · obtain ⟨rfl, rfl⟩ : ⟨r.next, k⟩ = h ∧ (⟨w, r.deeds ++ [deed r.next]⟩ : Ledger W) = r' := by
      simpa [gain, hw] using hcall
    exact ⟨rfl, rfl⟩

theorem deeds_of_gain_error (hcall : gain deed call r = (.error f, r')) :
    r'.deeds = r.deeds ++ [.denied f] ∧ ∃ w, call r.world = (.error f, w) := by
  rcases hw : call r.world with ⟨e | k, w⟩
  · obtain ⟨rfl, rfl⟩ : e = f ∧ (⟨w, r.deeds ++ [.denied e]⟩ : Ledger W) = r' := by
      simpa [gain, hw] using hcall
    exact ⟨rfl, w, rfl⟩
  · simp [gain, hw] at hcall

end Gain

section Accept
variable {n : Nat} {call : W → Except Fault (H × Endpoint) × W} {h : Numbered H} {e : Endpoint}
variable {f : Fault}

theorem deeds_of_accept (hcall : accept n call r = (.ok (h, e), r')) :
    h.number = r.next ∧ r'.deeds = r.deeds ++ [.used n none] ++ [.connected r.next] := by
  rcases hw : call r.world with ⟨f | ⟨k, e'⟩, w⟩
  · simp [accept, hw] at hcall
  · obtain ⟨⟨rfl, rfl⟩, rfl⟩ : (⟨r.next, k⟩ = h ∧ e' = e) ∧
        (⟨w, r.deeds ++ [.used n none, .connected r.next]⟩ : Ledger W) = r' := by
      simpa [accept, hw] using hcall
    exact ⟨rfl, by simp⟩

theorem deeds_of_accept_error (hcall : accept n call r = (.error f, r')) :
    r'.deeds = r.deeds ++ [.used n (some f)] ∧ ∃ w, call r.world = (.error f, w) := by
  rcases hw : call r.world with ⟨e' | ⟨k, e'⟩, w⟩
  · obtain ⟨rfl, rfl⟩ : e' = f ∧ (⟨w, r.deeds ++ [.used n (some e')]⟩ : Ledger W) = r' := by
      simpa [accept, hw] using hcall
    exact ⟨rfl, w, rfl⟩
  · simp [accept, hw] at hcall

end Accept
end Calls

/-- The calls that make a socket listen are made on that socket. -/
theorem uses_prepare [Sockets W H] (s : Settings) (k : Numbered H) (r : Ledger W) :
    Uses k.number r (Listener.prepare s k r).1 (Listener.prepare s k r).2 := by
  unfold Listener.prepare
  rcases hreuse : Sockets.reuseAddress k r with ⟨f | u, r₁⟩
  · simpa only [hreuse] using uses_of_enter hreuse
  have h₁ := uses_of_enter hreuse
  rcases hbind : Sockets.bind k s.host s.port.val r₁ with ⟨f | u, r₂⟩
  · simpa only [hreuse, hbind] using h₁.trans (uses_of_enter hbind)
  have h₂ := h₁.trans (uses_of_enter hbind)
  rcases hlisten : Sockets.listen k s.backlog r₂ with ⟨f | u, r₃⟩
  · simpa only [hreuse, hbind, hlisten] using h₂.trans (uses_of_enter hlisten)
  · have h₃ := h₂.trans (uses_of_enter hlisten)
    simp only [hbind, hlisten]
    exact h₃.trans (uses_of_enter rfl)

end Ledger

namespace Keeps

variable {W H α : Type} {server client : Option Nat} {r r' : Ledger W} {n : Nat}

theorem uses {a : Except Fault α} (h : Keeps server client r.deeds)
    (hn : server = some n ∨ client = some n) (huses : Ledger.Uses n r a r') :
    Keeps server client r'.deeds := by
  obtain ⟨new, hdeeds, hused, _⟩ := huses
  rw [hdeeds]
  refine h.use_all fun d hd => ?_
  obtain ⟨f, rfl⟩ := hused d hd
  refine ⟨rfl, rfl, rfl, fun m hm => ?_⟩
  obtain rfl := Option.some.inj hm
  exact hn

theorem used {call : W → Except Fault α × W} {a : Except Fault α}
    (h : Keeps server client r.deeds) (hn : server = some n ∨ client = some n)
    (hcall : Ledger.enter (.used n) call r = (a, r')) : Keeps server client r'.deeds :=
  h.uses hn (Ledger.uses_of_enter hcall)

section Name
variable {call : W → Except Fault Endpoint × W}

theorem named {e : Endpoint} (h : Keeps (some n) client r.deeds)
    (hcall : Ledger.enter (.named n) call r = (.ok e, r')) : Keeps (some n) client r'.deeds := by
  rw [Ledger.deeds_of_enter hcall]
  exact h.use rfl rfl rfl fun m hm => .inl hm

theorem unnamed {f : Fault} (h : Keeps (some n) none r.deeds)
    (hcall : Ledger.enter (.named n) call r = (.error f, r')) : Keeps none none r'.deeds := by
  rw [Ledger.deeds_of_enter hcall]
  exact h.forget f

end Name

theorem shut_client {call : W → Except Fault Unit × W} {u : Unit}
    (h : Keeps server (some n) r.deeds)
    (hcall : Ledger.enter (.closed n) call r = (.ok u, r')) : Keeps server none r'.deeds := by
  rw [Ledger.deeds_of_enter hcall]
  exact h.close_client

theorem shut_server {call : W → Except Fault Unit × W} {u : Unit}
    (h : Keeps (some n) none r.deeds)
    (hcall : Ledger.enter (.closed n) call r = (.ok u, r')) : Keeps none none r'.deeds := by
  rw [Ledger.deeds_of_enter hcall]
  exact h.close_server

theorem gained {call : W → Except Fault H × W} {k : Numbered H} (h : Keeps none none r.deeds)
    (hcall : Ledger.gain .created call r = (.ok k, r')) : Keeps (some k.number) none r'.deeds := by
  obtain ⟨hk, hdeeds⟩ := Ledger.deeds_of_gain hcall
  rw [hk, hdeeds]
  exact h.create

theorem denied {call : W → Except Fault H × W} {deed : Nat → Deed} {f : Fault}
    (h : Keeps server client r.deeds) (hcall : Ledger.gain deed call r = (.error f, r')) :
    Keeps server client r'.deeds := by
  rw [(Ledger.deeds_of_gain_error hcall).1]
  exact h.use rfl rfl rfl fun m hm => by contradiction

section Accept
variable {call : W → Except Fault (H × Endpoint) × W}

theorem accepted {k : Numbered H} {e : Endpoint} (h : Keeps (some n) none r.deeds)
    (hcall : Ledger.accept n call r = (.ok (k, e), r')) :
    Keeps (some n) (some k.number) r'.deeds := by
  obtain ⟨hk, hdeeds⟩ := Ledger.deeds_of_accept hcall
  have hused : Keeps (some n) none (r.deeds ++ [.used n none]) :=
    h.use rfl rfl rfl fun m hm => .inl hm
  have hnext : (opened (r.deeds ++ [.used n none])).length = r.next := by
    rw [opened_append, Ledger.next]
    exact congrArg List.length (List.append_nil _)
  rw [hk, hdeeds, ← hnext]
  exact hused.connect

theorem unaccepted {f : Fault} (h : Keeps (some n) client r.deeds)
    (hcall : Ledger.accept n call r = (.error f, r')) : Keeps (some n) client r'.deeds := by
  rw [(Ledger.deeds_of_accept_error hcall).1]
  exact h.use rfl rfl rfl fun m hm => .inl hm

end Accept
end Keeps

variable {W H : Type} [Sockets W H]

theorem Starts.ledger {P : Fault → Prop} (h : Starts W P) : Starts (Ledger W) P where
  create hcall := h.create (Ledger.deeds_of_gain_error hcall).2.choose_spec
  reuseAddress hcall := h.reuseAddress (Ledger.exists_call_of_enter hcall).choose_spec
  bind hcall := h.bind (Ledger.exists_call_of_enter hcall).choose_spec
  listen hcall := h.listen (Ledger.exists_call_of_enter hcall).choose_spec
  setTimeout hcall := h.setTimeout (Ledger.exists_call_of_enter hcall).choose_spec

/-- Keeping a ledger disturbs nothing. -/
theorem Orderly.ledger (h : Orderly W) : Orderly (Ledger W) where
  starts := h.starts.ledger
  endpoint hcall := h.endpoint (Ledger.exists_call_of_enter hcall).choose_spec
  accept hcall := h.accept (Ledger.deeds_of_accept_error hcall).2.choose_spec
  receive hcall := h.receive (Ledger.exists_call_of_enter hcall).choose_spec
  sendAll hcall := h.sendAll (Ledger.exists_call_of_enter hcall).choose_spec
  close hcall := h.close (Ledger.exists_call_of_enter hcall).choose_spec

end LiveConsole.Net
