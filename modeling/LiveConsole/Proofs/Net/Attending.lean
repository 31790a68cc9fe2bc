import LiveConsole.Proofs.Net.Listening
import LiveConsole.Proofs.Net.Schedule
import Mathlib.Algebra.GroupWithZero.Nat

/-!
# Attending to a connection

How a listener gets on with the connection that it holds in a scheduled network. What is in its buffer
and what is still to arrive make up one stream. Each call for a line takes the next line off this stream
or brings what is to arrive closer, until the stream is used up and the connection is left.
-/

namespace LiveConsole.Net
set_option autoImplicit false

/-- How many calls it takes at most to read an arrival, with the lines that may be in it. -/
def Arrival.effort : Arrival → Nat
  | .octets _ more => more.length + 2
  | .pause _ _ _ => 1

def Visitor.effort (v : Visitor) : Nat := (v.arrivals.map Arrival.effort).sum

def Exchange.sent? {H : Type} : Exchange H → Option (H × List UInt8)
  | .sent h data _ => some (h, data)
  | _ => none

/-- What was sent, each time with the connection. -/
def sends {H : Type} (xs : List (Exchange H)) : List (H × List UInt8) := xs.filterMap Exchange.sent?

theorem sends_append {H : Type} (xs ys : List (Exchange H)) :
    sends (xs ++ ys) = sends xs ++ sends ys :=
  List.filterMap_append

/-- What a call leaves alone that sends no more than `new`. -/
structure Steady (new : List (Nat × List UInt8)) (r r' : Recorded Schedule Nat) : Prop where
  knocks_eq : r'.world.knocks = r.world.knocks
  length_eq : r'.world.met.length = r.world.met.length
  sends_eq : sends r'.exchanges = sends r.exchanges ++ new

theorem Steady.refl (r : Recorded Schedule Nat) : Steady [] r r :=
  ⟨rfl, rfl, (List.append_nil _).symm⟩

/-- No connection is held, and all that arrived was read. -/
structure Vacant (l : Listener Nat) (w : Schedule) : Prop where
  client_eq : l.client = none
  spent : ∀ (k : Nat) (v : Visitor), w.met[k]? = some (.visitor v) → v.arrivals = []

/-- A connection is held, and a certain stream is still to be handed out. -/
structure Held (l : Listener Nat) (w : Schedule) (h : Nat) (stream : List UInt8) (effort : Nat) :
    Prop where
  client_eq : l.client = some h
  visitor : ∃ v, w.met[h]? = some (.visitor v) ∧ stream = l.buffer ++ v.stream ∧
    effort = v.effort + l.buffer.length
  spent : ∀ (k : Nat) (v : Visitor), k ≠ h → w.met[k]? = some (.visitor v) → v.arrivals = []

/-- How a call for a line can end. -/
inductive Fetched (h : Nat) (stream : List UInt8) (effort : Nat) :
    Except Fault (Option Text) → Listener Nat → Schedule → Prop where
  | line {line more : List UInt8} {l : Listener Nat} {w : Schedule} {effort' : Nat}
      (hline : newline ∉ line) (hstream : stream = line ++ newline :: more)
      (hl : Held l w h more effort') (hlt : effort' < effort) :
      Fetched h stream effort (.ok (some (lineText line))) l w
  | nothing {l : Listener Nat} {w : Schedule} {effort' : Nat} (hl : Held l w h stream effort')
      (hlt : effort' < effort) : Fetched h stream effort (.ok none) l w
  | gone {l : Listener Nat} {w : Schedule} (hn : newline ∉ stream) (hl : Vacant l w) :
      Fetched h stream effort (.ok none) l w

/-- The pieces of a stream are short enough. -/
def Fits (s : Settings) (stream : List UInt8) : Prop :=
  ∀ p ∈ stream.splitOn newline, p.length ≤ s.maxLine

theorem Fits.tail {s : Settings} {line more : List UInt8} (hline : newline ∉ line)
    (h : Fits s (line ++ newline :: more)) : Fits s more := by
  intro p hp
  refine h p ?_
  rw [List.splitOn_append_cons_self_of_not_mem hline]
  exact List.mem_cons_of_mem _ hp

/-- A beginning without a newline is short. -/
theorem Fits.length_le {s : Settings} {start more : List UInt8} (hstart : newline ∉ start)
    (h : Fits s (start ++ more)) : start.length ≤ s.maxLine := by
  obtain ⟨p, hp, hprefix⟩ := exists_remainder_prefix start more
  rw [remainder_of_not_mem hstart] at hprefix
  exact Nat.le_trans hprefix.length_le (h p hp)

namespace Held

variable {l : Listener Nat} {r : Recorded Schedule Nat} {w : Schedule} {h effort : Nat}
variable {stream : List UInt8}

/-- The connection after an arrival was read into a buffer. -/
theorem read (hl : Held l w h stream effort) {v : Visitor} (hv : w.met[h]? = some (.visitor v))
    (later : List Arrival) (buffer : List UInt8) :
    Held { l with buffer := buffer } (w.put h { v with arrivals := later }) h
      (buffer ++ later.flatMap Arrival.stream)
      ((later.map Arrival.effort).sum + buffer.length) := by
  refine ⟨hl.client_eq, ⟨_, Schedule.met_put_self hv, rfl, rfl⟩, ?_⟩
  intro k u hk hu
  rw [Schedule.met_put_of_ne hk] at hu
  exact hl.spent k u hk hu

section Read
variable (hl : Held l r.world h stream effort) {v : Visitor} {later : List Arrival}
variable (hv : r.world.met[h]? = some (.visitor v)) (hb : newline ∉ l.buffer)
include hl hv hb

theorem receiveLine_of_octets {first : UInt8} {more : List UInt8}
    (ha : v.arrivals = .octets first more :: later)
    (hfits : Fits l.settings (l.buffer ++ v.stream)) :
    ∃ a l' r', l.receiveLine r = (a, l', r') ∧
      Fetched h (l.buffer ++ v.stream) (v.effort + l.buffer.length) a l' r'.world ∧
      Steady [] r r' ∧ l'.settings = l.settings ∧ l'.server = l.server := by
  have hrec := Recorded.receive_of_eq
    (Schedule.receive_of_octets l.settings.recvSize hv ha)
  have hstream : l.buffer ++ v.stream =
      (l.buffer ++ first :: more) ++ later.flatMap Arrival.stream := by
    simp [Visitor.stream, ha, Arrival.stream]
  have heffort : v.effort = more.length + 2 + (later.map Arrival.effort).sum := by
    simp [Visitor.effort, ha, Arrival.effort]
  rcases splitLine?_cases (l.buffer ++ first :: more) with
    ⟨hn, _⟩ | ⟨line, rest, hline, hbuffer, _⟩
  · have hle := Fits.length_le hn (hstream ▸ hfits)
    refine ⟨_, _, _, Listener.receiveLine_of_kept hl.client_eq hb hrec (List.cons_ne_nil _ _) hn hle,
      ?_, ⟨rfl, by simp, by simp [sends, Exchange.sent?]⟩, rfl, rfl⟩
    rw [hstream]
    refine .nothing (hl.read hv later _) ?_
    rw [heffort, List.length_append, List.length_cons]
    omega
  · refine ⟨_, _, _, Listener.receiveLine_of_completed hl.client_eq hb hrec (List.cons_ne_nil _ _)
      hline hbuffer, ?_, ⟨rfl, by simp, by simp [sends, Exchange.sent?]⟩, rfl, rfl⟩
    have hlength := congrArg List.length hbuffer
    rw [List.length_append, List.length_append, List.length_cons, List.length_cons] at hlength
    rw [hstream, hbuffer]
    refine .line hline ?_ (hl.read hv later rest) ?_
    · rw [List.append_assoc, List.cons_append]
    · rw [heffort]
      omega

theorem receiveLine_of_pause {f : Fault} {hs : f.isA .systemError = true}
    {hf : f.isA .connectionError = false} (ha : v.arrivals = .pause f hs hf :: later) :
    ∃ a l' r', l.receiveLine r = (a, l', r') ∧
      Fetched h (l.buffer ++ v.stream) (v.effort + l.buffer.length) a l' r'.world ∧
      Steady [] r r' ∧ l'.settings = l.settings ∧ l'.server = l.server := by
  have hrec := Recorded.receive_of_eq
    (Schedule.receive_of_pause l.settings.recvSize hv ha)
  have hreceive := Listener.receiveLine_of_fault hl.client_eq hb hrec hf
  rw [if_pos hs] at hreceive
  refine ⟨_, _, _, hreceive, ?_, ⟨rfl, by simp, by simp [sends, Exchange.sent?]⟩, rfl, rfl⟩
  have hstream : v.stream = later.flatMap Arrival.stream := by
    simp [Visitor.stream, ha, Arrival.stream]
  have heffort : v.effort = 1 + (later.map Arrival.effort).sum := by
    simp [Visitor.effort, ha, Arrival.effort]
  rw [hstream, heffort]
  exact .nothing (hl.read hv later l.buffer) (by omega)

theorem receiveLine_of_nil (ha : v.arrivals = []) :
    ∃ a l' r', l.receiveLine r = (a, l', r') ∧
      Fetched h (l.buffer ++ v.stream) (v.effort + l.buffer.length) a l' r'.world ∧
      Steady [] r r' ∧ l'.settings = l.settings ∧ l'.server = l.server := by
  have hrec := Recorded.receive_of_eq (Schedule.receive_of_nil l.settings.recvSize hv ha)
  have hclose := Recorded.close_of_eq
    (r := ⟨r.world, r.exchanges ++ [.received h l.settings.recvSize v.ending.val]⟩)
    (Schedule.close_of_visitor hv)
  have hdrop := Listener.dropClient_of_client hl.client_eq hclose v.closing.property
  have hreceive := (Listener.receiveLine_of_ends hl.client_eq hb hrec v.ending.property).trans
    (congrArg Listener.dropping hdrop)
  refine ⟨_, _, _, hreceive, .gone ?_ ⟨rfl, ?_⟩, ⟨rfl, rfl, by simp [sends, Exchange.sent?]⟩,
    rfl, rfl⟩
  · rw [Visitor.stream, ha]
    simpa using hb
  · intro k u hu
    by_cases hk : k = h
    · subst hk
      obtain rfl := Caller.visitor.inj (Option.some.inj (hv.symm.trans hu))
      exact ha
    · exact hl.spent k u hk hu

end Read

theorem receiveLine (hl : Held l r.world h stream effort) (hfits : Fits l.settings stream) :
    ∃ a l' r', l.receiveLine r = (a, l', r') ∧ Fetched h stream effort a l' r'.world ∧
      Steady [] r r' ∧ l'.settings = l.settings ∧ l'.server = l.server := by
  obtain ⟨v, hv, rfl, rfl⟩ := hl.visitor
  have hc := hl.client_eq
  rcases splitLine?_cases l.buffer with ⟨hb, _⟩ | ⟨line, rest, hline, hbuffer, _⟩
  · cases ha : v.arrivals with
    | nil => exact hl.receiveLine_of_nil hv hb ha
    | cons a later =>
      cases a with
      | octets first more => exact hl.receiveLine_of_octets hv hb ha hfits
      | pause f hs hf => exact hl.receiveLine_of_pause hv hb ha
  · refine ⟨_, _, _, Listener.receiveLine_of_buffered hc hline hbuffer r, ?_, ⟨rfl, rfl, by simp⟩,
      rfl, rfl⟩
    have hstream : l.buffer ++ v.stream = line ++ newline :: (rest ++ v.stream) := by
      rw [hbuffer, List.append_assoc, List.cons_append]
    have hrest : Held { l with buffer := rest } r.world h (rest ++ v.stream)
        (v.effort + rest.length) := ⟨hc, ⟨v, hv, rfl, rfl⟩, hl.spent⟩
    refine .line hline hstream hrest ?_
    rw [hbuffer, List.length_append, List.length_cons]
    omega

/-- Sending leaves what is still to be handed out as it was. -/
theorem send (hl : Held l r.world h stream effort) (data : List UInt8) :
    ∃ b r', l.send data r = (.ok b, r') ∧ Held l r'.world h stream effort ∧
      Steady [(h, data)] r r' := by
  obtain ⟨v, hv, hstream, heffort⟩ := hl.visitor
  obtain ⟨a, later, w', hsend, hknocks, hlength, hself, hothers⟩ :=
    Schedule.exists_sendAll_eq hv data
  have hrec := Recorded.sendAll_of_eq hsend
  have hheld : Held l w' h stream effort := by
    refine ⟨hl.client_eq, ⟨_, hself, hstream, heffort⟩, ?_⟩
    intro k u hk hu
    rw [hothers k hk] at hu
    exact hl.spent k u hk hu
  have hsteady : Steady [(h, data)] r ⟨w', r.exchanges ++ [.sent h data a.val]⟩ :=
    ⟨hknocks, hlength, sends_append _ _⟩
  rcases a with ⟨f | u, ha⟩
  · refine ⟨false, _, ?_, hheld, hsteady⟩
    rw [Listener.send, hl.client_eq]
    simp only [hrec]
    exact if_pos (ha f rfl)
  · refine ⟨true, _, ?_, hheld, hsteady⟩
    rw [Listener.send, hl.client_eq]
    simp only [hrec]

end Held

/-- How a look for callers can end. -/
inductive Admitted (l : Listener Nat) (w : Schedule) :
    Except Fault Bool → Listener Nat → Schedule → Prop where
  | never (hw : w.knocks = []) : Admitted l w (.ok false) l w
  | nobody {f : SystemFault} {later : List Knock} (hw : w.knocks = .nobody f :: later) :
      Admitted l w (.ok false) l { w with knocks := later }
  | unusable {f : SystemFault} {closing : Reply} {later : List Knock}
      (hw : w.knocks = .caller (.unusable f closing) :: later) :
      Admitted l w (closing.val.map fun _ => false) l ⟨later, w.met ++ [.unusable f closing]⟩
  | visitor {v : Visitor} {later : List Knock} (hw : w.knocks = .caller (.visitor v) :: later) :
      Admitted l w (.ok true) { l with client := some w.met.length, buffer := [] }
        ⟨later, w.met ++ [.visitor v]⟩

namespace Vacant

variable {l : Listener Nat} {r : Recorded Schedule Nat} {w : Schedule} {later : List Knock}

theorem acceptIfNone (hl : Vacant l r.world) {server : Nat} (hs : l.server = some server) :
    ∃ a l' r', l.acceptIfNone r = (a, l', r') ∧ Admitted l r.world a l' r'.world ∧
      sends r'.exchanges = sends r.exchanges := by
  have hc := hl.client_eq
  rcases hw : r.world.knocks with _ | ⟨f | ⟨v⟩ | ⟨f, closing⟩, later⟩
  · have h := Listener.acceptIfNone_of_nobody hs hc
      (Recorded.accept_of_eq (Schedule.accept_of_nil hw))
    exact ⟨_, _, _, h, .never hw, by simp [sends, Exchange.sent?]⟩
  · have h := Listener.acceptIfNone_of_nobody hs hc
      (Recorded.accept_of_eq (Schedule.accept_of_nobody hw))
    rw [if_pos f.property] at h
    exact ⟨_, _, _, h, .nobody hw, by simp [sends, Exchange.sent?]⟩
  · have hmet : (r.world.met ++ [Caller.visitor v])[r.world.met.length]? = some (.visitor v) :=
      List.getElem?_concat_length
    have h := Listener.acceptIfNone_of_caller hs hc
      (Recorded.accept_of_eq (Schedule.accept_of_caller hw))
      (Recorded.setTimeout_of_eq (Schedule.setTimeout_of_visitor (w := ⟨later, _⟩) hmet))
    exact ⟨_, _, _, h, .visitor hw, by simp [sends, Exchange.sent?]⟩
  · have hmet : (r.world.met ++ [Caller.unusable f closing])[r.world.met.length]? =
        some (.unusable f closing) := List.getElem?_concat_length
    have h := Listener.acceptIfNone_of_unusable hs hc
      (Recorded.accept_of_eq (Schedule.accept_of_caller hw))
      (Recorded.setTimeout_of_eq (Schedule.setTimeout_of_unusable (w := ⟨later, _⟩) hmet))
      f.property (Recorded.close_of_eq (Schedule.close_of_unusable (w := ⟨later, _⟩) hmet))
    exact ⟨_, _, _, h, .unusable hw, by simp [sends, Exchange.sent?]⟩

theorem unusable (hl : Vacant l w) (f : SystemFault) (closing : Reply) :
    Vacant l ⟨later, w.met ++ [.unusable f closing]⟩ := by
  refine ⟨hl.client_eq, ?_⟩
  intro k v hk
  rcases Nat.lt_trichotomy k w.met.length with hlt | rfl | hlt
  · rw [List.getElem?_append_left hlt] at hk
    exact hl.spent k v hk
  · rw [List.getElem?_concat_length] at hk
    simp at hk
  · rw [List.getElem?_eq_none (by rw [List.length_append]; exact hlt)] at hk
    contradiction

theorem visitor (hl : Vacant l w) (v : Visitor) (later : List Knock) :
    Held { l with client := some w.met.length, buffer := [] } ⟨later, w.met ++ [.visitor v]⟩
      w.met.length v.stream v.effort := by
  refine ⟨rfl, ⟨v, List.getElem?_concat_length, rfl, rfl⟩, ?_⟩
  intro k u hne hk
  rcases Nat.lt_or_ge k w.met.length with hlt | hle
  · rw [List.getElem?_append_left hlt] at hk
    exact hl.spent k u hk
  · have hlt : w.met.length < k := Nat.lt_of_le_of_ne hle (Ne.symm hne)
    rw [List.getElem?_eq_none (by rw [List.length_append]; exact hlt)] at hk
    contradiction

end Vacant

end LiveConsole.Net
