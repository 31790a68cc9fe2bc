import LiveConsole.Console.Scripts
import LiveConsole.Proofs.Net.Hosting
import LiveConsole.Proofs.Net.Ownership
import LiveConsole.Proofs.Net.Sheltered

/-!
# Accounting for sockets

In an orderly network every socket that a host ever got is closed, or it is the listening socket or the
client of the current server; only a listening socket that could not tell its address is forgotten and
stays open. No socket is used when it is not open, none is closed twice, and no two of the listening sockets
that are not forgotten are open together. This holds after any commands, and once the host stops, all
sockets but those forgotten are closed.
-/

namespace LiveConsole.Net
set_option autoImplicit false

variable {W H : Type} [Sockets W H] {L : Language}

namespace Host

/-- The socket at which the current server listens. -/
def listening? (p : Host L H) : Option H :=
  p.currentServer?.bind fun x => x.server.listener.server

/-- The connection that the current server has. -/
def client? (p : Host L H) : Option H :=
  p.currentServer?.bind fun x => x.server.listener.client

/-- The open sockets are those of the current server. -/
structure Accounts (p : Host L (Numbered H)) (r : Ledger W) : Prop where
  tended : p.Tended
  keeps : Keeps (p.listening?.map Numbered.number) (p.client?.map Numbered.number) r.deeds

namespace Accounts

variable {p : Host L (Numbered H)} {r r' : Ledger W} {n : Nat} {x : Hosted (Numbered H)}
variable {s : Server (Numbered H)}

omit [Sockets W H] in
theorem owns_iff (hx : p.currentServer? = some x) :
    Keeps (p.listening?.map Numbered.number) (p.client?.map Numbered.number) r.deeds ↔
      x.server.listener.Owns r := by
  rw [listening?, client?, hx]
  exact Iff.rfl

omit [Sockets W H] in
theorem free_iff (hx : p.currentServer? = none) :
    Keeps (p.listening?.map Numbered.number) (p.client?.map Numbered.number) r.deeds ↔
      Keeps none none r.deeds := by
  rw [listening?, client?, hx]
  exact Iff.rfl

omit [Sockets W H] in
/-- While no server runs, nothing is open. -/
theorem free_iff_of_not_isRunning (h : p.Tended) (hp : p.isRunning = false) :
    Keeps (p.listening?.map Numbered.number) (p.client?.map Numbered.number) r.deeds ↔
      Keeps none none r.deeds := by
  cases hx : p.currentServer? with
  | none => exact free_iff hx
  | some x =>
    obtain ⟨n, _, hn⟩ := currentServer?_eq_some_iff.mp hx
    obtain ⟨hserver, hclient⟩ := (h.coherent n x hn).idle (running_of_not_isRunning hp hx)
    rw [owns_iff hx, Listener.Owns, hserver, hclient]
    exact Iff.rfl

section Orderly
variable (hW : Orderly W)
include hW

theorem start (h : Accounts p r) (base : Settings.Base) (overrides : Datum)
    (c : Option (Context L)) :
    Accounts (p.start base overrides c r).2.1 (p.start base overrides c r).2.2 := by
  refine ⟨h.tended.start base overrides c r, ?_⟩
  cases hp : p.isRunning with
  | true =>
    rw [start_of_isRunning hp]
    exact h.keeps
  | false =>
    have hfree := (free_iff_of_not_isRunning h.tended hp).mp h.keeps
    rcases hmake : Settings.make base overrides with refusal | settings
    · rw [start_of_refused hp hmake]
      exact h.keeps
    · have howns := Server.owns_start (s := Server.new settings) hW (.new settings) hfree
      rcases hstart : (Server.new settings).start r with ⟨a, s, r'⟩
      rw [hstart] at howns
      rw [start_of_made hp hmake]
      by_cases ha : a = .ok true
      · subst ha
        rw [launch_of_started hstart]
        obtain ⟨_, howns⟩ := howns.resolve_right fun h => h.1 rfl
        exact (owns_iff (currentServer?_adopt s)).mpr howns
      · rw [launch_of_unstarted hstart ha]
        refine (free_iff_of_not_isRunning h.tended hp).mpr ?_
        rcases howns with ⟨hok | rfl, howns⟩ | ⟨_, hforgotten⟩
        · exact absurd hok ha
        · exact howns
        · exact hforgotten

/-- A host can always be stopped, and then it has nothing open. -/
theorem exists_stop (h : Accounts p r) :
    ∃ p' r', p.stop r = (.ok (), p', r') ∧ p'.current = none ∧ Keeps none none r'.deeds ∧
      Ledger.Extends r r' := by
  cases hx : p.currentServer? with
  | none =>
    exact ⟨_, r, stop_of_absent hx r, rfl, (free_iff hx).mp h.keeps, .refl r⟩
  | some x =>
    obtain ⟨n, hn, hx'⟩ := currentServer?_eq_some_iff.mp hx
    obtain ⟨r', hstop, hfree⟩ := Server.owns_stop hW ((owns_iff hx).mp h.keeps)
    exact ⟨_, r', stop_of_stopped hn hx' hstop, rfl, hfree⟩

theorem stop (h : Accounts p r) : Accounts (p.stop r).2.1 (p.stop r).2.2 := by
  have htended := h.tended.stop r
  obtain ⟨p', r', hstop, hcurrent, hfree, _⟩ := h.exists_stop hW
  rw [hstop] at htended ⊢
  exact ⟨htended, (free_iff (by rw [currentServer?, hcurrent]; rfl)).mpr hfree⟩

theorem tick (h : Accounts p r) : Accounts (p.tick r).2.1 (p.tick r).2.2 := by
  refine ⟨h.tended.tick r, ?_⟩
  cases hx : p.currentServer? with
  | none =>
    rw [tick_of_absent hx]
    exact h.keeps
  | some x =>
    obtain ⟨n, hn, hx'⟩ := currentServer?_eq_some_iff.mp hx
    have howns := Server.owns_tick hW ((owns_iff hx).mp h.keeps) (p.context x)
    rw [tick_of_present hn hx' rfl]
    exact (owns_iff (currentServer?_put hn hx' _ _)).mpr howns

theorem stopServer (h : Accounts p r) (n : Nat) :
    Accounts (stopServer n p r).2.1 (stopServer n p r).2.2 := by
  refine ⟨h.tended.stopServer n r, ?_⟩
  cases hx : p.servers[n]? with
  | none =>
    rw [stopServer_of_none hx]
    exact h.keeps
  | some x =>
    by_cases hn : p.current = some n
    · have hcurrent := currentServer?_eq_some_iff.mpr ⟨n, hn, hx⟩
      obtain ⟨r', hstop, hfree, _⟩ := Server.owns_stop hW ((owns_iff hcurrent).mp h.keeps)
      rw [stopServer_of_some hx hstop]
      exact (owns_iff (currentServer?_put hn hx _ _)).mpr hfree
    · have hstop :=
        Server.stop_of_idle (h.tended.coherent n x hx) (h.tended.idle n x hx hn) r
      have hkeeps := h.keeps
      rw [listening?, client?] at hkeeps
      rw [stopServer_of_some hx hstop, listening?, client?, currentServer?_put_of_ne hn]
      exact hkeeps

theorem obey (h : Accounts p r) (o : Command L) : Accounts (obey o p r).1 (obey o p r).2 := by
  cases o with
  | start base overrides c => exact h.start hW base overrides c
  | stop => exact h.stop hW
  | tick => exact h.tick hW
  | halt n => exact h.stopServer hW n

theorem obeyAll (h : Accounts p r) (os : List (Command L)) :
    Accounts (obeyAll os p r).1 (obeyAll os p r).2 := by
  induction os using List.reverseRecOn with
  | nil => exact h
  | append_singleton os o ih =>
    rw [obeyAll_concat]
    exact ih.obey hW o

end Orderly

omit [Sockets W H] in
theorem of_new {p : Host L (Numbered H)} (hp : p.servers = #[]) (hcurrent : p.current = none)
    (w : W) : Accounts p (⟨w, []⟩ : Ledger W) where
  tended := .nil hp
  keeps := (free_iff (by rw [currentServer?, hcurrent]; rfl)).mpr .nil

end Accounts

/-- In an orderly network every socket that a host ever got is closed, or is held by the current server,
or was forgotten because it could not tell its address. What is held is open, only open sockets are used,
none is closed twice, and at no time were two listening sockets open but for those forgotten. After a stop
all others are closed. -/
theorem sockets_accounted (hW : Orderly W) {p : Host L (Numbered H)} (hp : p.servers = #[])
    (hcurrent : p.current = none) (w : W) (os : List (Command L)) :
    ∃ p' r', obeyAll os p (⟨w, []⟩ : Ledger W) = (p', r') ∧
      (∀ n ∈ opened r'.deeds, n ∈ closed r'.deeds ∨
        p'.listening?.map Numbered.number = some n ∨ p'.client?.map Numbered.number = some n ∨
          n ∈ unnamed r'.deeds) ∧
      (∀ n, p'.listening?.map Numbered.number = some n ∨ p'.client?.map Numbered.number = some n ∨
          n ∈ unnamed r'.deeds → IsOpen r'.deeds n) ∧
      Tidy r'.deeds ∧ (opened r'.deeds).Nodup ∧ (closed r'.deeds).Nodup ∧ Single r'.deeds ∧
      ∃ p'' r'', p'.stop r' = (.ok (), p'', r'') ∧ p''.current = none ∧
        r'.deeds <+: r''.deeds ∧ Tidy r''.deeds ∧ (closed r''.deeds).Nodup ∧
        ∀ n ∈ opened r''.deeds, n ∈ closed r''.deeds ∨ n ∈ unnamed r'.deeds := by
  have haccounts := (Accounts.of_new hp hcurrent w).obeyAll hW os
  obtain ⟨p'', r'', hstop, hnone, hfree, hgrown⟩ := haccounts.exists_stop hW
  have hkeeps := haccounts.keeps
  refine ⟨_, _, rfl, ?_, ?_, hkeeps.tidy, hkeeps.nodup_opened, hkeeps.tidy.nodup_closed,
    hkeeps.single, p'', r'', hstop, hnone, hgrown.before, hfree.tidy, hfree.tidy.nodup_closed, ?_⟩
  · intro n hn
    by_cases hclosed : n ∈ closed (obeyAll os p (⟨w, []⟩ : Ledger W)).2.deeds
    · exact .inl hclosed
    · exact .inr ((hkeeps.isOpen_iff n).mp ⟨hn, hclosed⟩)
  · intro n hn
    exact (hkeeps.isOpen_iff n).mpr hn
  · intro n hn
    by_cases hclosed : n ∈ closed r''.deeds
    · exact .inl hclosed
    · rcases (hfree.isOpen_iff n).mp ⟨hn, hclosed⟩ with h | h | h
      · contradiction
      · contradiction
      · rw [hgrown.unnamed_eq] at h
        exact .inr h

open Arrival (portion)
open Schedule (nobody pause)
open Sheltered (inUse noBuffers)

/-- The first socket cannot be bound, and the third cannot tell its address. The first visitor cannot be
greeted and is lost in the end; the next caller cannot be given a timeout. -/
def restless : Sheltered :=
  ⟨⟨[nobody,
      .caller (.visitor ⟨portion "x\n\x7b\"type\": \"evaluate\", \"expression\": \"6 * 7\"\x7d\n",
        ⟨.error ⟨.connectionAbortedError, []⟩, .inr ⟨_, rfl, by decide⟩⟩, [.refused], .done⟩),
      .caller (.unusable ⟨⟨.systemError, [.int 22, .text "Invalid argument"]⟩, by decide⟩ .done),
      .caller (.visitor ⟨[pause], ⟨.ok [], ends_nil⟩, [], .done⟩)], []⟩, [inUse],
    [.done, noBuffers]⟩

/-- The first server that listens is stopped behind the back of the host. -/
def commands : List (Command scripts) :=
  [.start .initial (.dict []) none, .tick, .start .initial (.dict []) none, .tick, .tick, .tick,
    .tick, .tick, .halt 0, .tick, .start .initial (.dict []) none, .tick,
    .start .initial (.dict []) none, .tick]

theorem restless_accounted :
    Orderly Sheltered ∧ (initial : Host scripts (Numbered Nat)).servers = #[] ∧
    (initial : Host scripts (Numbered Nat)).current = none ∧
    ∃ p r, obeyAll commands initial (⟨restless, []⟩ : Ledger Sheltered) = (p, r) ∧
      opened r.deeds = [0, 1, 2, 3, 4, 5, 6] ∧ closed r.deeds = [0, 2, 3, 1] ∧
      unnamed r.deeds = [4] ∧
      (∀ n ∈ opened r.deeds, n ∈ closed r.deeds ∨
        p.listening?.map Numbered.number = some n ∨ p.client?.map Numbered.number = some n ∨
          n ∈ unnamed r.deeds) ∧
      Tidy r.deeds ∧ Single r.deeds ∧
      ∃ p' r', p.stop r = (.ok (), p', r') ∧
        ∀ n ∈ opened r'.deeds, n ∈ closed r'.deeds ∨ n ∈ unnamed r.deeds := by
  obtain ⟨p, r, hrun, hheld, _, htidy, _, _, hsingle, p', r', hstop, _, _, _, _, hclosed⟩ :=
    sockets_accounted Sheltered.orderly (p := (initial : Host scripts (Numbered Nat))) rfl rfl
      restless commands
  have hdeeds : opened r.deeds = [0, 1, 2, 3, 4, 5, 6] ∧ closed r.deeds = [0, 2, 3, 1] ∧
      unnamed r.deeds = [4] := by
    obtain rfl : (obeyAll commands initial (⟨restless, []⟩ : Ledger Sheltered)).2 = r :=
      congrArg Prod.snd hrun
    decide +kernel
  exact ⟨Sheltered.orderly, rfl, rfl, p, r, hrun, hdeeds.1, hdeeds.2.1, hdeeds.2.2, hheld, htidy,
    hsingle, p', r', hstop, hclosed⟩

/-- Two starts after each other, of which the first gets a socket that cannot tell its address. -/
def startedTwice : Host scripts (Numbered Nat) × Ledger Sheltered :=
  obeyAll [.start .initial (.dict []) none, .start .initial (.dict []) none] initial
    ⟨⟨⟨[], []⟩, [], [noBuffers]⟩, []⟩

/-- The socket of the first start belongs to no server and stays open, beside the one that listens. -/
theorem nameless_left_open :
    startedTwice.1.servers.size = 1 ∧
    startedTwice.1.listening?.map Numbered.number = some 1 ∧
    opened startedTwice.2.deeds = [0, 1] ∧ closed startedTwice.2.deeds = [] := by
  decide +kernel

end Host
end LiveConsole.Net
