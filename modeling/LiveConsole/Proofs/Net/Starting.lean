import LiveConsole.Console.Scripts
import LiveConsole.Net.Loopback
import LiveConsole.Proofs.Net.Hosting
import LiveConsole.Proofs.Net.Ledger
import LiveConsole.Proofs.Net.Sheltered

/-!
# What a start can come to

A start either makes the server listen, or it leaves the server as it was. What it answers then, and
what it leaves behind, is told by its failures: a fault of the socket system makes it close what it
created and answer that it could not start, unless that cannot be told; any other fault is passed on, and
the socket stays open; a socket that cannot be closed stays open too. When the server listens already and
its socket cannot tell its address, that fault is passed on as well.
-/

namespace LiveConsole.Net
set_option autoImplicit false

variable {W H : Type} [Sockets W H] {L : Language}

namespace Ledger

variable {r r₁ r₂ r₃ : Ledger W} {k : Numbered H} {a : Except Fault Unit} {s : Settings}

/-- What is done to a socket up to the point where it listens. -/
theorem exists_made (hcreate : Sockets.create r = (.ok k, r₁))
    (hprepare : Listener.prepare s k r₁ = (a, r₂)) :
    ∃ made, r₂.deeds = r.deeds ++ made ∧ opened made = [k.number] ∧ closed made = [] ∧
      failures made = (failure? a).toList := by
  obtain ⟨hk, hcreated⟩ := deeds_of_gain hcreate
  have huses := uses_prepare s k r₁
  rw [hprepare] at huses
  obtain ⟨new, hdeeds, hused, hfailures⟩ := huses
  have hopened : opened new = [] := List.filterMap_eq_nil_iff.mpr fun d hd => by
    obtain ⟨f, rfl⟩ := hused d hd
    rfl
  have hclosed : closed new = [] := List.filterMap_eq_nil_iff.mpr fun d hd => by
    obtain ⟨f, rfl⟩ := hused d hd
    rfl
  refine ⟨.created r.next :: new, ?_, ?_, ?_, ?_⟩
  · rw [hdeeds, hcreated, List.append_assoc]
    rfl
  · rw [hk]
    exact congrArg (r.next :: ·) hopened
  · exact hclosed
  · exact hfailures

/-- What is done to it up to there, and one call more. -/
theorem exists_made_concat (hcreate : Sockets.create r = (.ok k, r₁))
    (hprepare : Listener.prepare s k r₁ = (a, r₂)) {d : Deed} (hd : r₃.deeds = r₂.deeds ++ [d]) :
    ∃ made before, r₃.deeds = r.deeds ++ made ∧ made = before ++ [d] ∧
      opened before = [k.number] ∧ closed before = [] ∧ failures before = (failure? a).toList ∧
      opened made = [k.number] ++ opened [d] ∧ closed made = closed [d] ∧
      failures made = (failure? a).toList ++ failures [d] := by
  obtain ⟨before, hbefore, hopened, hclosed, hfailures⟩ := exists_made hcreate hprepare
  refine ⟨before ++ [d], before, ?_, rfl, hopened, hclosed, hfailures, ?_, ?_, ?_⟩
  · rw [hd, hbefore, List.append_assoc]
  · rw [opened_append, hopened]
  · rw [closed_append, hclosed, List.nil_append]
  · rw [failures_append, hfailures]

end Ledger

namespace Server

/-- What a start can come to that opened and closed sockets and met with failures. -/
inductive Attempt (s : Server (Numbered H)) (made : List Deed) :
    Except Fault Bool → Server (Numbered H) → Prop where
  | listening {server : Numbered H} (hopened : opened made = [server.number])
      (hclosed : closed made = []) (hfailures : failures made = []) :
      Attempt s made (.ok true) ⟨{ s.listener with server := some server }, true⟩
  /-- It listens, but the socket cannot tell its address. -/
  | unnamed {server : Numbered H} {f : Fault} {before : List Deed}
      (hmade : made = before ++ [.named server.number (some f)])
      (hopened : opened before = [server.number]) (hclosed : closed before = [])
      (hfailures : failures before = []) :
      Attempt s made (.error f) ⟨{ s.listener with server := some server }, true⟩
  | declined {f : Fault} (hclosed : closed made = opened made) (hfailures : failures made = [f])
      (hf : f.isA .systemError = true) : Attempt s made (.ok false) s
  /-- It would be declined, if that could be told. -/
  | untold {f : Fault} {reason : Digits.TooLong} (hclosed : closed made = opened made)
      (hfailures : failures made = [f]) (hf : f.isA .systemError = true)
      (hreason : s.listener.settings.host.plain = .error reason ∨ f.message = .error reason) :
      Attempt s made (.error (.unwritable reason)) s
  | rejected {f : Fault} (hopened : made = [.denied f] ∨ ∃ n, opened made = [n])
      (hclosed : closed made = []) (hfailures : failures made = [f])
      (hf : f.isA .systemError = false) : Attempt s made (told f) s
  | stuck {n : Nat} {f e : Fault} (hopened : opened made = [n]) (hclosed : closed made = [])
      (hfailures : failures made = [f, e]) (hf : f.isA .systemError = true) :
      Attempt s made (told e) s

namespace Attempt

variable {s : Server (Numbered H)} {made : List Deed}

/-- What a bind error tells, if it can be told. -/
theorem of_bindError {f e : Fault} (hclosed : closed made = opened made)
    (hfailures : failures made = [f]) (hf : f.isA .systemError = true)
    (he : e.isA .bindError = true ∨ ∃ reason, (s.listener.settings.host.plain = .error reason ∨
      f.message = .error reason) ∧ e = .unwritable reason) : Attempt s made (told e) s := by
  rcases he with he | ⟨reason, hreason, rfl⟩
  · rw [told_of_bindError he]
    exact .declined hclosed hfailures hf
  · exact .untold hclosed hfailures hf hreason

end Attempt

/-- Every start of a server without sockets is an attempt. -/
theorem exists_attempt {s : Server (Numbered H)} (hs : s.Coherent) (hrun : s.running = false)
    (r : Ledger W) : ∃ a s' r' made, s.start r = (a, s', r') ∧ r'.deeds = r.deeds ++ made ∧
      Attempt s made a s' := by
  have hbinding := Listener.binding (hs.idle hrun).1 r
  rcases hbind : s.listener.bind r with ⟨a, l, r'⟩
  rw [hbind] at hbinding
  have hdeeds {f : Fault} : (if f.isA .bindError then Sockets.note (.notBound f) r' else r').deeds =
      r'.deeds := by
    cases f.isA .bindError <;> rfl
  cases hbinding with
  | @uncreated f _ hcreate =>
    obtain ⟨hdenied, _⟩ := Ledger.deeds_of_gain_error hcreate
    refine ⟨_, _, _, [.denied f], start_of_unbound hrun hbind, hdeeds.trans hdenied, ?_⟩
    cases hf : f.isA .systemError with
    | false =>
      exact .rejected (.inl rfl) rfl rfl hf
    | true =>
      exact .of_bindError rfl rfl hf (Listener.uncreated_cases s.listener.settings f)
  | @prepared k _ _ hcreate hprepare =>
    rcases hname : Sockets.endpoint k r' with ⟨f | e, r''⟩
    · obtain ⟨made, before, hall, hmade, hopened, hclosed, hfailures, _⟩ :=
        Ledger.exists_made_concat hcreate hprepare (Ledger.deeds_of_enter hname)
      exact ⟨_, _, _, made, start_of_unnamed hrun hbind rfl hname, hall,
        .unnamed hmade hopened hclosed hfailures⟩
    · obtain ⟨made, _, hall, _, _, _, _, hopened, hclosed, hfailures⟩ :=
        Ledger.exists_made_concat hcreate hprepare (Ledger.deeds_of_enter hname)
      exact ⟨_, _, _, made, start_of_named hrun hbind rfl hname, hall,
        .listening hopened hclosed hfailures⟩
  | rejected hcreate hprepare hf =>
    obtain ⟨made, hmade, hopened, hclosed, hfailures⟩ := Ledger.exists_made hcreate hprepare
    exact ⟨_, _, _, made, start_of_unbound hrun hbind, hdeeds.trans hmade,
      .rejected (.inr ⟨_, hopened⟩) hclosed hfailures hf⟩
  | @withdrawn k f _ _ _ hcreate hprepare hf hclose =>
    obtain ⟨made, _, hmade, _, _, _, _, hopened, hclosed, hfailures⟩ :=
      Ledger.exists_made_concat hcreate hprepare (Ledger.deeds_of_enter hclose)
    exact ⟨_, _, _, made, start_of_unbound hrun hbind, hdeeds.trans hmade,
      .of_bindError (hclosed.trans hopened.symm) hfailures hf
        (Listener.failedToBind_cases s.listener.settings f)⟩
  | @stuck k f e _ _ _ hcreate hprepare hf hclose =>
    obtain ⟨made, _, hmade, _, _, _, _, hopened, hclosed, hfailures⟩ :=
      Ledger.exists_made_concat hcreate hprepare (Ledger.deeds_of_enter hclose)
    exact ⟨_, _, _, made, start_of_unbound hrun hbind, hdeeds.trans hmade,
      .stuck hopened hclosed hfailures hf⟩

end Server

namespace Host

/-- A start of a server without sockets either makes it listen, or leaves it as it was; and a host that
starts a new server with settings that are accepted either has that server then, or is as it was. All
that was opened is closed again if a start answers that it could not bind; it answers with an error if
that cannot be told, if a call fails otherwise, or if the socket cannot be closed. It does so too if the
server listens and the socket cannot tell its address: then the host is as it was, and the socket open. -/
theorem start_outcomes (r : Ledger W) :
    (∀ s : Server (Numbered H), s.Arises → s.running = false →
      ∃ a s' r' made, s.start r = (a, s', r') ∧ r'.deeds = r.deeds ++ made ∧
        s.Attempt made a s') ∧
    ∀ (p : Host L (Numbered H)) (base : Settings.Base) (overrides : Datum)
      (c : Option (Context L)) (settings : Settings),
      p.isRunning = false → Settings.make base overrides = .ok settings →
      ∃ a s' r' made, (Server.new settings).Attempt made a s' ∧ r'.deeds = r.deeds ++ made ∧
        (a = .ok true ∧ p.start base overrides c r = (.ok true, p.adopt s' c, r') ∧
            (p.adopt s' c).currentServer?.map Hosted.server = some s' ∨
          a ≠ .ok true ∧ p.start base overrides c r = (a.mapError .fault, p, r')) := by
  constructor
  · intro s hs hrun
    exact Server.exists_attempt hs.coherent hrun r
  · intro p base overrides c settings hp hmake
    obtain ⟨a, s', r', made, hstart, hdeeds, hattempt⟩ :=
      Server.exists_attempt (H := H) (.new settings) rfl r
    refine ⟨a, s', r', made, hattempt, hdeeds, ?_⟩
    rw [start_of_made hp hmake]
    by_cases ha : a = .ok true
    · subst ha
      refine .inl ⟨rfl, launch_of_started hstart, ?_⟩
      rw [currentServer?_adopt]
      rfl
    · exact .inr ⟨ha, launch_of_unstarted hstart ha⟩

/-- A network in which the address is in use at first. -/
def busy : Sheltered := ⟨⟨[], []⟩, [Sheltered.inUse], []⟩

theorem busy_outcomes :
    (Server.new Settings.initial : Server (Numbered Nat)).Arises ∧
    (initial : Host scripts (Numbered Nat)).isRunning = false ∧
    Settings.make .initial (.dict []) = .ok Settings.initial ∧
    (∃ a s' r', (Server.new Settings.initial : Server (Numbered Nat)).start
        (⟨busy, []⟩ : Ledger Sheltered) = (a, s', r') ∧
      (Server.new Settings.initial).Attempt r'.deeds a s' ∧ opened r'.deeds = [0] ∧
      closed r'.deeds = [0]) ∧
    ∃ a s' r', (Server.new Settings.initial : Server (Numbered Nat)).Attempt r'.deeds a s' ∧
      (a = .ok true ∧ (initial : Host scripts (Numbered Nat)).start .initial (.dict []) none
          (⟨busy, []⟩ : Ledger Sheltered) = (.ok true, initial.adopt s' none, r') ∨
        a ≠ .ok true ∧ (initial : Host scripts (Numbered Nat)).start .initial (.dict []) none
          (⟨busy, []⟩ : Ledger Sheltered) = (a.mapError .fault, initial, r')) := by
  obtain ⟨hserver, hhost⟩ := start_outcomes (L := scripts) (⟨busy, []⟩ : Ledger Sheltered)
  obtain ⟨a, s, r, made, hstart, hdeeds, hattempt⟩ :=
    hserver (Server.new Settings.initial) (.new _) rfl
  obtain ⟨b, s', r', made', hattempt', hdeeds', hcases⟩ :=
    hhost initial .initial (.dict []) none Settings.initial rfl rfl
  obtain rfl : r.deeds = made := hdeeds
  obtain rfl : r'.deeds = made' := hdeeds'
  have hboth : opened r.deeds = [0] ∧ closed r.deeds = [0] := by
    obtain rfl : ((Server.new Settings.initial : Server (Numbered Nat)).start
        (⟨busy, []⟩ : Ledger Sheltered)).2.2 = r := congrArg (fun x => x.2.2) hstart
    decide +kernel
  refine ⟨.new _, rfl, rfl, ⟨a, s, r, hstart, hattempt, hboth⟩, b, s', r', hattempt', ?_⟩
  rcases hcases with ⟨hb, hstarted, _⟩ | hunstarted
  · exact .inl ⟨hb, hstarted⟩
  · exact .inr hunstarted

/-- More waiting clients than the socket system can count. -/
def crowded : Datum := .dict [(.text "backlog", .int (tenTo 30))]

def overflow : Fault := ⟨.overflowError, [.text "an integer is too large"]⟩

/-- The settings are accepted, but the socket system does not take them: the start fails with an error,
no server is there, and the socket is left open. -/
theorem crowded_left_open :
    (match (initial : Host scripts Nat).start .initial crowded none
        (Loopback.initial.plan ⟨.listen, overflow, 0, 1⟩) with
    | (.error (.fault f), p, w) =>
      f.isA .overflowError && p.current.isNone && !w.sockets.all Socket.closed
    | _ => false) = true := by
  decide +kernel

end Host
end LiveConsole.Net
