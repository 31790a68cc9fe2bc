import LiveConsole.Proofs.Net.Ledger
import LiveConsole.Proofs.Net.Lifetime

/-!
# What a server owns

In an orderly network the open sockets of a ledger are at all times those that the listener holds, its
own and its client's. Every operation of a listener and of a server keeps it so.
-/

namespace LiveConsole.Net
set_option autoImplicit false

variable {W H : Type} [Sockets W H]

namespace Listener

/-- The open sockets are those of a listener. -/
def Owns (l : Listener (Numbered H)) (r : Ledger W) : Prop :=
  Keeps (l.server.map Numbered.number) (l.client.map Numbered.number) r.deeds

namespace Owns

variable {α : Type} {l : Listener (Numbered H)} {r r' : Ledger W} {k : Numbered H}

omit [Sockets W H] in
theorem use_client {call : W → Except Fault α × W} {a : Except Fault α} (h : l.Owns r)
    (hc : l.client = some k) (hcall : Ledger.enter (.used k.number) call r = (a, r')) : l.Owns r' := by
  refine h.used (n := k.number) (.inr ?_) hcall
  rw [hc, Option.map_some]

theorem note (h : l.Owns r) (n : Notice) : l.Owns (Sockets.note n r) := h

theorem send (h : l.Owns r) (data : List UInt8) : l.Owns (l.send data r).2 := by
  unfold Listener.send
  cases hc : l.client with
  | none => exact h
  | some k =>
    rcases hsend : Sockets.sendAll k data r with ⟨f | u, r'⟩
    · have hused : l.Owns r' := h.use_client hc hsend
      cases hf : f.isA .systemError with
      | false => simpa [hsend, hf] using hused
      | true => simpa [hsend, hf] using hused.note (.sendFailed f)
    · have hused : l.Owns r' := h.use_client hc hsend
      simpa [hsend] using hused

section Orderly
variable (hW : Orderly W)
include hW

/-- A client can always be dropped, and then it is not open any more. -/
theorem dropClient (h : l.Owns r) : ∃ r', l.dropClient r = (.ok (), l.alone, r') ∧
    l.alone.Owns r' ∧ Ledger.Extends r r' := by
  cases hc : l.client with
  | none =>
    refine ⟨r, dropClient_of_no_client hc r, ?_, .refl r⟩
    rwa [Owns, hc] at h
  | some k =>
    rcases hclose : Sockets.close k r with ⟨a, r'⟩
    obtain rfl := hW.ledger.close hclose
    rw [Owns, hc] at h
    exact ⟨r', dropClient_of_client hc hclose fun f hf => by contradiction,
      h.shut_client hclose, Ledger.extends_of_closed hclose⟩

theorem dropping (h : l.Owns r) (n : Notice) :
    (Listener.dropping (l.dropClient (Sockets.note n r))).2.1.Owns
      (Listener.dropping (l.dropClient (Sockets.note n r))).2.2 := by
  obtain ⟨r', hdrop, hdropped, _⟩ := (h.note n).dropClient hW
  rw [Listener.dropping, hdrop]
  exact hdropped

theorem receiveLine (h : l.Owns r) : (l.receiveLine r).2.1.Owns (l.receiveLine r).2.2 := by
  cases hc : l.client with
  | none =>
    rw [receiveLine_of_no_client hc]
    exact h
  | some k =>
    have hasking := asking hc r
    generalize l.receiveLine r = out at hasking
    cases hasking with
    | line hline =>
      cases hline with
      | buffered _ _ => exact h
      | completed _ hr _ _ => exact h.use_client hc hr
    | kept _ hr => exact h.use_client hc hr
    | quiet _ hr => exact h.use_client hc hr
    | @overlong chunk r' _ hr =>
      have hgrown : { l with buffer := l.buffer ++ chunk }.Owns r' := h.use_client hc hr
      exact dropping hW hgrown _
    | ended _ hr _ => exact dropping hW (h.use_client hc hr) _

theorem acceptIfNone (h : l.Owns r) : (l.acceptIfNone r).2.1.Owns (l.acceptIfNone r).2.2 := by
  cases hc : l.client with
  | some k =>
    rw [acceptIfNone_of_client hc]
    exact h
  | none =>
    cases hs : l.server with
    | none =>
      have hsame : l.acceptIfNone r = (.ok false, l, r) := by simp [Listener.acceptIfNone, hs]
      rw [hsame]
      exact h
    | some server =>
      have hkeeps : Keeps (some server.number) none r.deeds := by
        rwa [Owns, hs, hc] at h
      have htimed {k : Numbered H} {e : Endpoint} {r₁ r₂ : Ledger W} {a : Except Fault Unit}
          (hr : Sockets.accept server r = (.ok (k, e), r₁))
          (ht : Sockets.setTimeout k (timeout l.settings) r₁ = (a, r₂)) :
          Keeps (some server.number) (some k.number) r₂.deeds := by
        have hadmitted : Keeps (some server.number) (some k.number) r₁.deeds := hkeeps.accepted hr
        exact hadmitted.used (.inr rfl) ht
      have hlooking := looking hs hc r
      generalize l.acceptIfNone r = out at hlooking
      cases hlooking with
      | nobody hr =>
        rw [Owns, hs, hc]
        exact hkeeps.unaccepted hr
      | caller hr ht =>
        have hheld := htimed hr ht
        rw [Owns, hs]
        exact hheld
      | untimed hr ht hf =>
        rw [hW.ledger.starts.setTimeout ht] at hf
        contradiction
      | @unusable k e f _ _ r₁ r₂ hr ht _ hclose =>
        obtain rfl := hW.ledger.close hclose
        have hheld := htimed hr ht
        have hshut : Keeps (some server.number) none r₂.deeds :=
          Keeps.shut_client (r := Sockets.note (.clientUnusable e f) r₁) hheld hclose
        rw [Owns, hs, hc]
        exact hshut

theorem bind (h : l.Owns r) (hclient : l.server = none → l.client = none) :
    (l.bind r).2.1.Owns (l.bind r).2.2 := by
  cases hs : l.server with
  | some server =>
    rw [bind_of_server hs]
    exact h
  | none =>
    have hkeeps : Keeps none none r.deeds := by
      rwa [Owns, hs, hclient hs] at h
    have howns {r' : Ledger W} (h' : Keeps none none r'.deeds) : l.Owns r' := by
      rwa [Owns, hs, hclient hs]
    have hprepared {k : Numbered H} {r₁ r₂ : Ledger W} {a : Except Fault Unit}
        (hcreate : Sockets.create r = (.ok k, r₁))
        (hprepare : Listener.prepare l.settings k r₁ = (a, r₂)) :
        Keeps (some k.number) none r₂.deeds := by
      have hmade : Keeps (some k.number) none r₁.deeds := hkeeps.gained hcreate
      have huses := Ledger.uses_prepare l.settings k r₁
      rw [hprepare] at huses
      exact hmade.uses (.inl rfl) huses
    have hbinding := binding hs r
    generalize l.bind r = out at hbinding
    cases hbinding with
    | uncreated hcreate => exact howns (hkeeps.denied hcreate)
    | prepared hcreate hprepare =>
      rw [Owns, hclient hs]
      exact hprepared hcreate hprepare
    | rejected hcreate hprepare hf =>
      rw [hW.ledger.starts.prepare hprepare] at hf
      contradiction
    | withdrawn hcreate hprepare _ hclose =>
      exact howns ((hprepared hcreate hprepare).shut_server hclose)
    | stuck _ _ _ hclose =>
      have hclosed := hW.ledger.close hclose
      contradiction

/-- A listener can always be closed, and then it has nothing open. -/
theorem close (h : l.Owns r) : ∃ r', l.close r = (.ok (), { l.alone with server := none }, r') ∧
    Keeps none none r'.deeds ∧ Ledger.Extends r r' := by
  obtain ⟨r₁, hdrop, hdropped, hgrown⟩ := h.dropClient hW
  cases hs : l.server with
  | none =>
    refine ⟨r₁, close_of_no_server hdrop hs, ?_, hgrown⟩
    rwa [Owns, alone, hs] at hdropped
  | some server =>
    rcases hclose : Sockets.close server r₁ with ⟨a, r₂⟩
    obtain rfl := hW.ledger.close hclose
    rw [Owns, alone, hs] at hdropped
    exact ⟨r₂, close_of_server hdrop hs hclose, Keeps.shut_server hdropped hclose,
      hgrown.trans (Ledger.extends_of_closed hclose)⟩

end Orderly
end Owns
end Listener

namespace Server

variable {L : Language} {s : Server (Numbered H)} {r : Ledger W}

theorem owns_send (h : s.listener.Owns r) (x : Response) : s.listener.Owns (s.send x r).2 := by
  unfold send
  cases x.encode with
  | error reason => exact h
  | ok data => exact h.send data

variable (hW : Orderly W)
include hW

/-- A server that starts, or stays as it is, owns what is open. If it cannot tell its address, it counts as
forgotten. -/
theorem owns_start (hs : s.Coherent) (h : s.listener.Owns r) :
    ((s.start r).1 = .ok true ∨ (s.start r).2.1 = s) ∧
        (s.start r).2.1.listener.Owns (s.start r).2.2 ∨
      (s.start r).1 ≠ .ok true ∧ Keeps none none (s.start r).2.2.deeds := by
  cases hrun : s.running with
  | true =>
    rw [start_of_running hrun]
    exact .inl ⟨.inl rfl, h⟩
  | false =>
    have hclient := (hs.idle hrun).2
    have hbound := h.bind hW fun _ => hclient
    have hcases := Listener.bind_cases s.listener r
    rcases hbind : s.listener.bind r with ⟨f | u, l, r'⟩
    · rw [hbind] at hbound hcases
      rcases hcases with ⟨_, rfl⟩ | ⟨hok, _⟩
      · rw [start_of_unbound hrun hbind]
        refine .inl ⟨.inr rfl, ?_⟩
        cases f.isA .bindError with
        | false => exact hbound
        | true => exact hbound.note (.notBound f)
      · contradiction
    · rw [hbind] at hbound hcases
      rcases hcases with ⟨⟨f, hf⟩, _⟩ | ⟨_, server, rfl⟩
      · contradiction
      · have hserver : Keeps (some server.number) none r'.deeds := by
          rwa [Listener.Owns, hclient] at hbound
        rcases hname : Sockets.endpoint server r' with ⟨f | e, r''⟩
        · rw [start_of_unnamed hrun hbind rfl hname]
          exact .inr ⟨by simp, hserver.unnamed hname⟩
        · rw [start_of_named hrun hbind rfl hname]
          have hnamed : Keeps (some server.number) none r''.deeds := hserver.named hname
          refine .inl ⟨.inl rfl, ?_⟩
          rwa [Listener.Owns, hclient]

/-- A server can always be stopped, and then it has nothing open. -/
theorem owns_stop (h : s.listener.Owns r) :
    ∃ r', s.stop r = (.ok (), ⟨{ s.listener.alone with server := none }, false⟩, r') ∧
      Keeps none none r'.deeds ∧ Ledger.Extends r r' := by
  have hnoted : s.listener.Owns (if s.running then Sockets.note .serverStopping r else r) ∧
      Ledger.Extends r (if s.running then Sockets.note .serverStopping r else r) := by
    cases s.running <;> exact ⟨h, List.prefix_refl _, rfl⟩
  obtain ⟨r', hclose, hkeeps, hgrown⟩ := hnoted.1.close hW
  exact ⟨r', by rw [stop, hclose], hkeeps, hnoted.2.trans hgrown⟩

theorem owns_welcome (h : s.listener.Owns r) :
    (s.welcome r).2.1.listener.Owns (s.welcome r).2.2 := by
  have haccept := h.acceptIfNone hW
  unfold welcome
  generalize s.listener.acceptIfNone r = out at haccept ⊢
  rcases out with ⟨f | _ | _, l, r'⟩
  · exact haccept
  · exact haccept
  · dsimp only at haccept ⊢
    have hsent := owns_send (s := ⟨l, s.running⟩) haccept (.connected l.settings.banner)
    generalize send ⟨l, s.running⟩ (.connected l.settings.banner) r' = sent at hsent ⊢
    rcases sent with ⟨f | b, r''⟩ <;> exact hsent

theorem owns_serve (h : s.listener.Owns r) (c : Context L) :
    (s.serve c r).2.1.listener.Owns (s.serve c r).2.2.2 := by
  have hreceive := h.receiveLine hW
  unfold serve
  generalize s.listener.receiveLine r = out at hreceive ⊢
  rcases out with ⟨f | _ | line, l, r'⟩
  · exact hreceive
  · exact hreceive
  · dsimp only at hreceive ⊢
    unfold answer
    rcases Evaluator.handleLine c line with ⟨e | _ | x, c'⟩
    · exact hreceive
    · exact hreceive
    · have hsent := owns_send (s := ⟨l, s.running⟩) hreceive x
      dsimp only
      generalize send ⟨l, s.running⟩ x r' = sent at hsent ⊢
      rcases sent with ⟨f | b, r''⟩ <;> exact hsent

theorem owns_tick (h : s.listener.Owns r) (c : Context L) :
    (s.tick c r).2.1.listener.Owns (s.tick c r).2.2.2 := by
  have hwelcome := owns_welcome hW h
  unfold tick
  cases s.running with
  | false => exact h
  | true =>
    rw [if_pos rfl]
    generalize s.welcome r = out at hwelcome ⊢
    rcases out with ⟨f | u, s', r'⟩
    · exact hwelcome
    · exact owns_serve hW hwelcome c

end Server
end LiveConsole.Net
