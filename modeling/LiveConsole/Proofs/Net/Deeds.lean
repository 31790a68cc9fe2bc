import LiveConsole.Fault
import Mathlib.Data.List.Induction

/-!
# Deeds

What a program does to its sockets, which go by numbers. A list of deeds tells which sockets are open,
whether one was used that was not open, and whether two created sockets were ever open together. A socket
that could not tell its address counts for itself.
-/

namespace LiveConsole.Net
set_option autoImplicit false

/-- What is done to the socket of a number. -/
inductive Deed where
  | created (n : Nat)
  | connected (n : Nat)
  /-- A socket was asked for, and none was given. -/
  | denied (f : Fault)
  | used (n : Nat) (failure : Option Fault)
  /-- A socket was asked for its address. -/
  | named (n : Nat) (failure : Option Fault)
  | closed (n : Nat) (failure : Option Fault)

namespace Deed

/-- The socket that is new with a deed. -/
def gained? : Deed → Option Nat
  | created n | connected n => some n
  | _ => none

def created? : Deed → Option Nat
  | created n => some n
  | _ => none

/-- The socket that a deed needs open. -/
def needed? : Deed → Option Nat
  | used n _ | named n _ | closed n _ => some n
  | _ => none

/-- The socket that could not tell its address. -/
def unnamed? : Deed → Option Nat
  | named n (some _) => some n
  | _ => none

/-- The socket that is no longer open with a deed. -/
def lost? : Deed → Option Nat
  | closed n none => some n
  | _ => none

def failure? : Deed → Option Fault
  | denied f => some f
  | used _ f | named _ f | closed _ f => f
  | _ => none

theorem gained?_of_created? {d : Deed} {n : Nat} (h : d.created? = some n) :
    d.gained? = some n := by
  cases d with
  | created m => exact h
  | _ => contradiction

theorem needed?_of_lost? {d : Deed} {n : Nat} (h : d.lost? = some n) : d.needed? = some n := by
  cases d with
  | closed m f =>
    cases f with
    | none => exact h
    | some f => contradiction
  | _ => contradiction

end Deed

/-- All sockets that there were. -/
def opened (ds : List Deed) : List Nat := ds.filterMap Deed.gained?

/-- Those of them that were created and not taken from a caller. -/
def created (ds : List Deed) : List Nat := ds.filterMap Deed.created?

def closed (ds : List Deed) : List Nat := ds.filterMap Deed.lost?

def unnamed (ds : List Deed) : List Nat := ds.filterMap Deed.unnamed?

def failures (ds : List Deed) : List Fault := ds.filterMap Deed.failure?

def IsOpen (ds : List Deed) (n : Nat) : Prop := n ∈ opened ds ∧ n ∉ closed ds

/-- Nothing was done to a socket that was not open at the time. -/
def Tidy (ds : List Deed) : Prop :=
  ∀ before d, before ++ [d] <+: ds → ∀ n, d.needed? = some n → IsOpen before n

/-- A socket was created, and no call for its address failed. -/
def Named (ds : List Deed) (n : Nat) : Prop := n ∈ created ds ∧ n ∉ unnamed ds

/-- At no time were two of the created sockets open, but for those that could not tell their address. -/
def Single (ds : List Deed) : Prop :=
  ∀ before, before <+: ds → ∀ m n, Named before m → Named before n →
    IsOpen before m → IsOpen before n → m = n

variable {ds new : List Deed} {d : Deed} {n : Nat}

theorem opened_append (ds new : List Deed) : opened (ds ++ new) = opened ds ++ opened new :=
  List.filterMap_append

theorem created_concat (h : d.created? = none) : created (ds ++ [d]) = created ds := by
  simp [created, h]

theorem unnamed_append (ds new : List Deed) : unnamed (ds ++ new) = unnamed ds ++ unnamed new :=
  List.filterMap_append

theorem unnamed_concat (h : d.unnamed? = none) : unnamed (ds ++ [d]) = unnamed ds := by
  simp [unnamed, h]

theorem closed_append (ds new : List Deed) : closed (ds ++ new) = closed ds ++ closed new :=
  List.filterMap_append

theorem failures_append (ds new : List Deed) :
    failures (ds ++ new) = failures ds ++ failures new :=
  List.filterMap_append

theorem mem_opened_of_mem_created (h : n ∈ created ds) : n ∈ opened ds := by
  obtain ⟨d, hd, hn⟩ := List.mem_filterMap.mp h
  exact List.mem_filterMap.mpr ⟨d, hd, Deed.gained?_of_created? hn⟩

theorem Tidy.nil : Tidy [] := by
  intro before d h
  have hnil := List.prefix_nil.mp h
  simp at hnil

theorem Tidy.concat (h : Tidy ds) (hd : ∀ n, d.needed? = some n → IsOpen ds n) :
    Tidy (ds ++ [d]) := by
  intro before x hx n hn
  rcases List.prefix_concat_iff.mp hx with heq | hx
  · obtain ⟨rfl, hlast⟩ := List.append_inj' heq rfl
    obtain rfl := List.head_eq_of_cons_eq hlast
    exact hd n hn
  · exact h before x hx n hn

theorem Single.nil : Single [] := by
  intro before h m n hm
  rw [List.prefix_nil.mp h] at hm
  exact absurd hm.1 List.not_mem_nil

theorem Single.concat (h : Single ds) (hd : ∀ m n, Named (ds ++ [d]) m → Named (ds ++ [d]) n →
    IsOpen (ds ++ [d]) m → IsOpen (ds ++ [d]) n → m = n) : Single (ds ++ [d]) := by
  intro before hbefore
  rcases List.prefix_concat_iff.mp hbefore with rfl | hbefore
  · exact hd
  · exact h before hbefore

/-- Only what was opened is ever closed. -/
theorem Tidy.mem_opened (h : Tidy ds) (hn : n ∈ closed ds) : n ∈ opened ds := by
  obtain ⟨d, hd, hlost⟩ := List.mem_filterMap.mp hn
  obtain ⟨before, after, rfl⟩ := List.append_of_mem hd
  have hopen := h before d ⟨after, by simp⟩ n (Deed.needed?_of_lost? hlost)
  rw [opened_append]
  exact List.mem_append_left _ hopen.1

/-- A socket is closed at most once. -/
theorem Tidy.nodup_closed (h : Tidy ds) : (closed ds).Nodup := by
  induction ds using List.reverseRecOn with
  | nil => exact List.nodup_nil
  | append_singleton ds d ih =>
    have hbefore : Tidy ds := fun before x hx => h before x (hx.trans (List.prefix_append ds [d]))
    cases hd : d.lost? with
    | none =>
      rw [closed_append]
      simpa [closed, hd] using ih hbefore
    | some n =>
      have hn := (h ds d (List.prefix_refl _) n (Deed.needed?_of_lost? hd)).2
      have hlast : closed [d] = [n] := by simp [closed, hd]
      rw [closed_append, hlast, List.nodup_append]
      refine ⟨ih hbefore, by simp, ?_⟩
      intro m hm k hk
      rw [List.mem_singleton.mp hk]
      exact ne_of_mem_of_not_mem hm hn

theorem isOpen_concat (hgained : d.gained? = none) (hlost : d.lost? = none) :
    IsOpen (ds ++ [d]) n ↔ IsOpen ds n := by
  rw [IsOpen, IsOpen, opened_append, closed_append]
  simp [opened, closed, hgained, hlost]

theorem isOpen_concat_closed {m : Nat} :
    IsOpen (ds ++ [.closed n none]) m ↔ IsOpen ds m ∧ m ≠ n := by
  have hgained : opened [.closed n none] = [] := rfl
  have hlost : closed [.closed n none] = [n] := rfl
  rw [IsOpen, IsOpen, opened_append, closed_append, hgained, hlost]
  simp only [List.append_nil, List.mem_append, List.mem_singleton, not_or]
  tauto

/-- A socket that was never there before is open. -/
theorem Tidy.isOpen_concat_gained (h : Tidy ds) (hgained : d.gained? = some n)
    (hlost : d.lost? = none) (hn : n ∉ opened ds) {m : Nat} :
    IsOpen (ds ++ [d]) m ↔ IsOpen ds m ∨ m = n := by
  have hnew : opened [d] = [n] := by simp [opened, hgained]
  have hnone : closed [d] = [] := by simp [closed, hlost]
  have hnotclosed : n ∉ closed ds := fun hmem => hn (h.mem_opened hmem)
  rw [IsOpen, IsOpen, opened_append, closed_append, hnew, hnone, List.append_nil,
    List.mem_append, List.mem_singleton]
  constructor
  · rintro ⟨hm | hm, hclosed⟩
    · exact .inl ⟨hm, hclosed⟩
    · exact .inr hm
  · rintro (⟨hm, hclosed⟩ | rfl)
    · exact ⟨.inl hm, hclosed⟩
    · exact ⟨.inr rfl, hnotclosed⟩

/-- What a ledger shows of a program that holds no more than a created socket and a connected one, and
has forgotten the sockets that could not tell their address. -/
structure Keeps (server client : Option Nat) (ds : List Deed) : Prop where
  numbers : opened ds = List.range (opened ds).length
  tidy : Tidy ds
  single : Single ds
  apart : ∀ n, server = some n → client ≠ some n
  known : ∀ n ∈ unnamed ds, server ≠ some n ∧ client ≠ some n
  isOpen_iff : ∀ n, IsOpen ds n ↔ server = some n ∨ client = some n ∨ n ∈ unnamed ds
  isServer : ∀ n, Named ds n → IsOpen ds n → server = some n

namespace Keeps

variable {server client : Option Nat}

theorem nil : Keeps none none [] where
  numbers := rfl
  tidy := .nil
  single := .nil
  apart n h := by contradiction
  known n hn := by contradiction
  isOpen_iff n := by simp [IsOpen, opened, unnamed]
  isServer n hn := absurd hn.1 List.not_mem_nil

theorem nodup_opened (h : Keeps server client ds) : (opened ds).Nodup := by
  rw [h.numbers]
  exact List.nodup_range

/-- The number of the next socket is new. -/
theorem next_not_mem (h : Keeps server client ds) : (opened ds).length ∉ opened ds := by
  rw [h.numbers, List.length_range]
  exact List.not_mem_range_self

/-- A socket that could not tell its address was there. -/
theorem mem_opened_of_mem_unnamed (h : Keeps server client ds) (hn : n ∈ unnamed ds) :
    n ∈ opened ds :=
  ((h.isOpen_iff n).mpr (.inr (.inr hn))).1

/-- Of two created sockets that are open, each is the server. -/
theorem single_concat (h : Keeps server client ds) {server' : Option Nat}
    (hserver : ∀ n, Named (ds ++ [d]) n → IsOpen (ds ++ [d]) n → server' = some n) :
    Single (ds ++ [d]) := by
  refine h.single.concat fun m n hm hn hmopen hnopen => ?_
  have hboth := (hserver m hm hmopen).symm.trans (hserver n hn hnopen)
  exact Option.some.inj hboth

theorem numbers_of_opened_eq (h : Keeps server client ds) {ds' : List Deed}
    (hsame : opened ds' = opened ds) : opened ds' = List.range (opened ds').length := by
  rw [hsame]
  exact h.numbers

theorem opened_concat (hgained : d.gained? = none) : opened (ds ++ [d]) = opened ds := by
  simp [opened, hgained]

/-- Using what is held changes nothing. -/
theorem use (h : Keeps server client ds) (hgained : d.gained? = none) (hlost : d.lost? = none)
    (hunnamed : d.unnamed? = none)
    (hneeded : ∀ n, d.needed? = some n → server = some n ∨ client = some n) :
    Keeps server client (ds ++ [d]) := by
  have hcreated : d.created? = none := by
    rw [Option.eq_none_iff_forall_not_mem]
    intro n hn
    rw [Deed.gained?_of_created? hn] at hgained
    contradiction
  have hserver : ∀ n, Named (ds ++ [d]) n → IsOpen (ds ++ [d]) n → server = some n := by
    intro n hn hopen
    rw [Named, created_concat hcreated, unnamed_concat hunnamed] at hn
    exact h.isServer n hn ((isOpen_concat hgained hlost).mp hopen)
  refine ⟨h.numbers_of_opened_eq (opened_concat hgained), h.tidy.concat ?_,
    h.single_concat hserver, h.apart, ?_, ?_, hserver⟩
  · intro n hn
    exact (h.isOpen_iff n).mpr ((hneeded n hn).imp_right .inl)
  · rw [unnamed_concat hunnamed]
    exact h.known
  · intro n
    rw [isOpen_concat hgained hlost, unnamed_concat hunnamed]
    exact h.isOpen_iff n

theorem use_all (h : Keeps server client ds) (hnew : ∀ d ∈ new, d.gained? = none ∧ d.lost? = none ∧
    d.unnamed? = none ∧ ∀ n, d.needed? = some n → server = some n ∨ client = some n) :
    Keeps server client (ds ++ new) := by
  induction new generalizing ds with
  | nil => rwa [List.append_nil]
  | cons d new ih =>
    obtain ⟨⟨hgained, hlost, hunnamed, hneeded⟩, hmore⟩ := List.forall_mem_cons.mp hnew
    rw [List.append_cons]
    exact ih (h.use hgained hlost hunnamed hneeded) hmore

theorem numbers_concat (h : Keeps server client ds) (hd : d.gained? = some (opened ds).length) :
    opened (ds ++ [d]) = List.range (opened (ds ++ [d])).length := by
  have hnew : opened (ds ++ [d]) = opened ds ++ [(opened ds).length] := by
    rw [opened_append]
    simp [opened, hd]
  rw [hnew, List.length_append, List.length_singleton, List.range_succ, ← h.numbers]

/-- Nothing was held, and a socket is created. -/
theorem create (h : Keeps none none ds) :
    Keeps (some (opened ds).length) none (ds ++ [.created (opened ds).length]) := by
  have hsame : unnamed (ds ++ [.created (opened ds).length]) = unnamed ds := unnamed_concat rfl
  have hopen (n : Nat) := h.tidy.isOpen_concat_gained (d := .created (opened ds).length) rfl rfl
    h.next_not_mem (m := n)
  have hiff : ∀ n, IsOpen (ds ++ [.created (opened ds).length]) n ↔
      some (opened ds).length = some n ∨ none = some n ∨ n ∈ unnamed ds := by
    intro n
    rw [hopen, h.isOpen_iff]
    simp [eq_comm, or_comm]
  have hserver : ∀ n, Named (ds ++ [.created (opened ds).length]) n →
      IsOpen (ds ++ [.created (opened ds).length]) n → some (opened ds).length = some n := by
    intro n hn hnopen
    rcases (hiff n).mp hnopen with hlast | hnone | hunnamed
    · exact hlast
    · contradiction
    · rw [← hsame] at hunnamed
      exact absurd hunnamed hn.2
  refine ⟨h.numbers_concat rfl, h.tidy.concat fun n hn => by contradiction,
    h.single_concat hserver, fun n _ hn => by contradiction, ?_, ?_, hserver⟩
  · rw [hsame]
    intro n hn
    refine ⟨?_, fun hnone => by contradiction⟩
    rintro hlast
    obtain rfl := Option.some.inj hlast
    exact h.next_not_mem (h.mem_opened_of_mem_unnamed hn)
  · rw [hsame]
    exact hiff

/-- No connection was held, and one is taken. -/
theorem connect (h : Keeps server none ds) :
    Keeps server (some (opened ds).length) (ds ++ [.connected (opened ds).length]) := by
  have hsame : unnamed (ds ++ [.connected (opened ds).length]) = unnamed ds := unnamed_concat rfl
  have hopen (n : Nat) := h.tidy.isOpen_concat_gained (d := .connected (opened ds).length) rfl rfl
    h.next_not_mem (m := n)
  have hserver : ∀ n, Named (ds ++ [.connected (opened ds).length]) n →
      IsOpen (ds ++ [.connected (opened ds).length]) n → server = some n := by
    intro n hn hnopen
    rw [Named, created_concat rfl, hsame] at hn
    rcases (hopen n).mp hnopen with hbefore | rfl
    · exact h.isServer n hn hbefore
    · exact absurd (mem_opened_of_mem_created hn.1) h.next_not_mem
  refine ⟨h.numbers_concat rfl, h.tidy.concat fun n hn => by contradiction,
    h.single_concat hserver, ?_, ?_, ?_, hserver⟩
  · intro n hn hlast
    obtain rfl := Option.some.inj hlast
    exact h.next_not_mem ((h.isOpen_iff _).mpr (.inl hn)).1
  · rw [hsame]
    intro n hn
    refine ⟨(h.known n hn).1, ?_⟩
    intro hlast
    obtain rfl := Option.some.inj hlast
    exact h.next_not_mem (h.mem_opened_of_mem_unnamed hn)
  · intro n
    rw [hopen, h.isOpen_iff, hsame]
    simp [eq_comm]
    tauto

/-- The connection is closed. -/
theorem close_client (h : Keeps server (some n) ds) :
    Keeps server none (ds ++ [.closed n none]) := by
  have hsame : unnamed (ds ++ [.closed n none]) = unnamed ds := unnamed_concat rfl
  have hserver : ∀ m, Named (ds ++ [.closed n none]) m → IsOpen (ds ++ [.closed n none]) m →
      server = some m := by
    intro m hm hmopen
    rw [Named, created_concat rfl, hsame] at hm
    exact h.isServer m hm (isOpen_concat_closed.mp hmopen).1
  refine ⟨h.numbers_of_opened_eq (opened_concat rfl), h.tidy.concat ?_, h.single_concat hserver,
    ?_, ?_, ?_, hserver⟩
  · intro m hm
    exact (h.isOpen_iff m).mpr (.inr (.inl hm))
  · intro m _ hm
    contradiction
  · rw [hsame]
    intro m hm
    exact ⟨(h.known m hm).1, fun hnone => by contradiction⟩
  · intro m
    rw [isOpen_concat_closed, h.isOpen_iff, hsame]
    constructor
    · rintro ⟨hm | hm | hm, hne⟩
      · exact .inl hm
      · exact absurd (Option.some.inj hm).symm hne
      · exact .inr (.inr hm)
    · rintro (hm | hm | hm)
      · refine ⟨.inl hm, ?_⟩
        rintro rfl
        exact h.apart m hm rfl
      · contradiction
      · refine ⟨.inr (.inr hm), ?_⟩
        rintro rfl
        exact (h.known m hm).2 rfl

/-- The created socket is closed, with no connection left. -/
theorem close_server (h : Keeps (some n) none ds) : Keeps none none (ds ++ [.closed n none]) := by
  have hsame : unnamed (ds ++ [.closed n none]) = unnamed ds := unnamed_concat rfl
  have hopen : ∀ m, IsOpen (ds ++ [.closed n none]) m ↔ m ∈ unnamed ds := by
    intro m
    rw [isOpen_concat_closed, h.isOpen_iff]
    constructor
    · rintro ⟨hm | hm | hm, hne⟩
      · exact absurd (Option.some.inj hm).symm hne
      · contradiction
      · exact hm
    · intro hm
      refine ⟨.inr (.inr hm), ?_⟩
      rintro rfl
      exact (h.known m hm).1 rfl
  have hserver : ∀ m, Named (ds ++ [.closed n none]) m → IsOpen (ds ++ [.closed n none]) m →
      none = some m := by
    intro m hm hmopen
    rw [Named, hsame] at hm
    exact absurd ((hopen m).mp hmopen) hm.2
  refine ⟨h.numbers_of_opened_eq (opened_concat rfl), h.tidy.concat ?_, h.single_concat hserver,
    ?_, ?_, ?_, hserver⟩
  · intro m hm
    exact (h.isOpen_iff m).mpr (.inl hm)
  · intro m hm
    contradiction
  · intro m _
    exact ⟨fun hnone => by contradiction, fun hnone => by contradiction⟩
  · intro m
    rw [hopen m, hsame]
    simp

/-- The created socket cannot tell its address and is forgotten. -/
theorem forget (h : Keeps (some n) none ds) (f : Fault) :
    Keeps none none (ds ++ [.named n (some f)]) := by
  have hlast : unnamed (ds ++ [.named n (some f)]) = unnamed ds ++ [n] := unnamed_append ds _
  have hserver : ∀ m, Named (ds ++ [.named n (some f)]) m →
      IsOpen (ds ++ [.named n (some f)]) m → none = some m := by
    intro m hm hmopen
    rw [Named, created_concat rfl, hlast, List.mem_append, not_or] at hm
    obtain rfl := Option.some.inj
      (h.isServer m ⟨hm.1, hm.2.1⟩ ((isOpen_concat rfl rfl).mp hmopen))
    exact absurd (List.mem_singleton_self n) hm.2.2
  refine ⟨h.numbers_of_opened_eq (opened_concat rfl), h.tidy.concat ?_, h.single_concat hserver,
    ?_, ?_, ?_, hserver⟩
  · intro m hm
    exact (h.isOpen_iff m).mpr (.inl hm)
  · intro m hm
    contradiction
  · intro m _
    exact ⟨fun hnone => by contradiction, fun hnone => by contradiction⟩
  · intro m
    rw [isOpen_concat rfl rfl, h.isOpen_iff, hlast, List.mem_append, List.mem_singleton]
    simp [eq_comm, or_comm]

end Keeps
end LiveConsole.Net
