import LiveConsole.Console.Scripts
import LiveConsole.Proofs.Net.Greeting

/-!
# Which response a call returns

A connection carries no numbers, so responses are told apart by their order alone. A call returns the
oldest response that no call has returned before. This is its own only as long as every call returns.
-/

namespace LiveConsole.Net.Dialogue
set_option autoImplicit false

open Evaluator (evaluateAll responseTo)

variable {L : Language} {x : Dialogue L}

/-- The expressions that the calls ask for, as they arrive. -/
def asked (steps : List Step) : List Text := (expressions steps).map Text.soften

/-- The response to one of the expressions that the calls ask for. -/
def own (x : Dialogue L) (steps : List Step) (i : Nat) : Option Response :=
  responseTo x.remote.context (asked steps) i

/-- How many of the expressions before one of them have responses. -/
def answeredBefore (x : Dialogue L) (steps : List Step) (i : Nat) : Nat :=
  (evaluateAll x.remote.context ((asked steps).take i)).1.length

def returnedBefore (x : Dialogue L) (steps : List Step) (i : Nat) : Nat :=
  ((run steps x).take i).countP isMessage

def raisedBefore (x : Dialogue L) (steps : List Step) (i : Nat) : Nat :=
  ((run steps x).take i).countP (fun ending => !isMessage ending)

/-- Every call that returns a message returns that of its own response. -/
def Matched (x : Dialogue L) (steps : List Step) : Prop :=
  ∀ i d, (run steps x)[i]? = some (.message d) → ∃ r, x.own steps i = some r ∧ r.Tells d

theorem answeredBefore_le (x : Dialogue L) (steps : List Step) (i : Nat) :
    x.answeredBefore steps i ≤ i :=
  Nat.le_trans (Evaluator.length_evaluateAll_le _ _) (List.length_take_le i _)

theorem lt_length_of_own {steps : List Step} {i : Nat} {r : Response}
    (h : x.own steps i = some r) : i < (asked steps).length := by
  obtain ⟨e, he, _⟩ := Option.bind_eq_some_iff.mp h
  exact (List.getElem?_eq_some_iff.mp he).1

theorem answeredBefore_of_answered {steps : List Step} {i : Nat} {r : Response}
    (hi : x.own steps i = some r) (h : ∀ j, j < i → ∃ r, x.own steps j = some r) :
    x.answeredBefore steps i = i := by
  have hlength : ((asked steps).take i).length = i :=
    List.length_take_of_le (Nat.le_of_lt (lt_length_of_own hi))
  rw [answeredBefore, Evaluator.length_evaluateAll_of_answered, hlength]
  intro j hj
  obtain ⟨r, hr⟩ := h j (hlength ▸ hj)
  refine ⟨r, ?_⟩
  rw [← hr, own, Evaluator.responseTo_of_prefix (List.take_prefix i _) _ hj]

theorem length_take_run {steps : List Step} {i : Nat} {d : Datum}
    (hi : (run steps x)[i]? = some (.message d)) : ((run steps x).take i).length = i :=
  List.length_take_of_le (Nat.le_of_lt (List.getElem?_eq_some_iff.mp hi).1)

theorem returnedBefore_of_returned {steps : List Step} {i : Nat} {d : Datum}
    (hi : (run steps x)[i]? = some (.message d))
    (h : ∀ j, j < i → ∃ d, (run steps x)[j]? = some (.message d)) :
    x.returnedBefore steps i = i := by
  have hall : ∀ ending ∈ (run steps x).take i, isMessage ending = true := by
    intro ending hmem
    obtain ⟨j, hj⟩ := List.mem_iff_getElem?.mp hmem
    have hlt : j < i := by
      rw [← length_take_run hi]
      exact (List.getElem?_eq_some_iff.mp hj).1
    obtain ⟨d, hd⟩ := h j hlt
    rw [List.getElem?_take_of_lt hlt, hd] at hj
    obtain rfl := Option.some.inj hj
    rfl
  rw [returnedBefore, List.countP_eq_length.mpr hall, length_take_run hi]

theorem returnedBefore_eq_sub {steps : List Step} {i : Nat} {d : Datum}
    (hi : (run steps x)[i]? = some (.message d)) :
    x.returnedBefore steps i = i - x.raisedBefore steps i := by
  have hsum := List.length_eq_countP_add_countP isMessage (l := (run steps x).take i)
  rw [length_take_run hi] at hsum
  have hraised : x.raisedBefore steps i =
      ((run steps x).take i).countP (fun ending => decide ¬isMessage ending = true) := by
    refine List.countP_congr fun ending _ => ?_
    simp
  rw [returnedBefore, hraised]
  omega

/-- A call that returns a message returns that of the oldest response that no call before it has returned. -/
theorem Quiet.returns_oldest (hx : x.Quiet) {steps : List Step} {i : Nat} {d : Datum}
    (hi : (run steps x)[i]? = some (.message d)) :
    ∃ j r, j ≤ i ∧ x.own steps j = some r ∧ r.Tells d ∧
      x.answeredBefore steps j = x.returnedBefore steps i := by
  obtain ⟨done, r, hdone, hr, hd⟩ := run_returns steps hx.connected hx.underway hi
  rw [Nat.zero_add] at hr
  rw [List.nil_append] at hdone
  obtain ⟨j, hj, howned, hbefore⟩ := Evaluator.exists_responseTo hr
  have hasked : done.map Text.soften <+: asked steps :=
    (hdone.trans (List.take_prefix _ _)).map Text.soften
  have hle : j ≤ i := by
    have hlength := Nat.le_trans hdone.length_le (List.length_take_le _ _)
    rw [List.length_map] at hj
    omega
  refine ⟨j, r, hle, ?_, hd, ?_⟩
  · rw [own, Evaluator.responseTo_of_prefix hasked _ hj, howned]
  · obtain ⟨rest, hrest⟩ := hasked
    rw [answeredBefore, ← hrest, List.take_append_of_le_length (Nat.le_of_lt hj), hbefore]
    rfl

/-- After the greeting a call that returns a message returns that of the oldest response that no call before
it has returned. As long as every call returns, this is its own. Where every request is answered, it is the
response to the request that lies as many calls back as calls were given up before. -/
theorem returns_in_order (hx : x.Greeted) (steps : List Step) :
    ∀ i d, (run steps x)[i]? = some (.message d) →
      (∃ j r, j ≤ i ∧ x.own steps j = some r ∧ r.Tells d ∧
        x.answeredBefore steps j = x.returnedBefore steps i) ∧
      ((∀ j, j < i → ∃ d, (run steps x)[j]? = some (.message d)) →
        ∃ r, x.own steps i = some r ∧ r.Tells d) ∧
      ((∀ j, j ≤ i → ∃ r, x.own steps j = some r) →
        ∃ r, x.own steps (i - x.raisedBefore steps i) = some r ∧ r.Tells d) := by
  intro i d hi
  obtain ⟨j, r, hle, hr, hd, hcount⟩ := hx.quiet.returns_oldest hi
  refine ⟨⟨j, r, hle, hr, hd, hcount⟩, ?_, ?_⟩
  · intro hreturned
    have hij : i ≤ j := by
      rw [← returnedBefore_of_returned hi hreturned, ← hcount]
      exact answeredBefore_le x steps j
    obtain rfl : j = i := Nat.le_antisymm hle hij
    exact ⟨r, hr, hd⟩
  · intro hanswered
    have hj := answeredBefore_of_answered hr fun k hk => hanswered k (by omega)
    rw [hcount, returnedBefore_eq_sub hi] at hj
    rw [hj]
    exact ⟨r, hr, hd⟩

def welcoming : Server Unit := ((Server.new Settings.initial).start Link.fresh).2.1

def caller : Client Unit := .new Client.defaultHost Client.defaultPort Client.defaultTimeout 0

def unmet : Dialogue scripts := ⟨caller, ⟨welcoming, .new "<repl>", .fresh, []⟩⟩

/-- The greeting has been read. -/
def ready : Dialogue scripts := (unmet.connect.read [⟨[0], .ok 4095⟩]).2

/-- The first call is given up before the server is ticked. -/
def hasty : List Step := [.evaluate [] "1", .tick 4095, .evaluate [⟨[], .ok 4095⟩] "2"]

/-- The result that a message tells. -/
def result? : Datum → Option Text
  | .dict members =>
    match Datum.field? "result" members with
    | some (.text t) => some t
    | _ => none
  | _ => none

def returned? : Client.Ending Client.Failure → Option Text
  | .message d => result? d
  | _ => none

theorem exists_of_returned? {ending : Client.Ending Client.Failure} {t : Text}
    (h : returned? ending = some t) : ∃ d, ending = .message d ∧ result? d = some t := by
  cases ending with
  | message d => exact ⟨d, rfl, h⟩
  | failed | unfinished => contradiction

/-- The result that a client reads from the line of a response. -/
def told? (r : Response) : Option Text := do
  let data ← r.encode.toOption
  let d ← (Client.message? 0 data.dropLast).toOption.join
  result? d

theorem told?_of_tells {r : Response} {d : Datum} (h : r.Tells d) : told? r = result? d := by
  obtain ⟨line, _, hencode, hmessage⟩ := h
  simp [told?, hencode, hmessage 0, Except.toOption]

theorem ready_greeted : ready.Greeted := by
  have hmessage : isMessage (unmet.connect.read [⟨[0], .ok 4095⟩]).1 = true := by decide +kernel
  obtain ⟨d, hd⟩ := exists_of_isMessage hmessage
  exact ⟨unmet.connect, _, d, .connected rfl, Prod.ext hd rfl⟩

/-- The second call returns the response to the first. -/
theorem hasty_returned : ∃ d, (run hasty ready)[1]? = some (.message d) ∧
    result? d = some (Text.ofString "1") := by
  have hresults : (run hasty ready).map returned? = [none, some (Text.ofString "1")] := by
    decide +kernel
  have hsecond := congrArg (·[1]?) hresults
  simp only [List.getElem?_map] at hsecond
  obtain ⟨ending, hending, hresult⟩ := Option.map_eq_some_iff.mp hsecond
  obtain ⟨d, rfl, hd⟩ := exists_of_returned? hresult
  exact ⟨d, hending, hd⟩

theorem hasty_mismatched : ready.Greeted ∧ ¬ready.Matched hasty := by
  refine ⟨ready_greeted, fun hmatched => ?_⟩
  obtain ⟨d, hd, hresult⟩ := hasty_returned
  obtain ⟨r, hr, htells⟩ := hmatched 1 d hd
  have hown : (ready.own hasty 1).bind told? = some (Text.ofString "2") := by decide +kernel
  rw [hr, Option.bind_some, told?_of_tells htells, hresult] at hown
  exact absurd hown (by decide)

theorem hasty_in_order : ready.Greeted ∧ ∃ d r, (run hasty ready)[1]? = some (.message d) ∧
    ready.own hasty 0 = some r ∧ r.Tells d := by
  obtain ⟨d, hd, _⟩ := hasty_returned
  have hanswered (j : Nat) (hj : j ≤ 1) : ∃ r, ready.own hasty j = some r := by
    have hall : ∀ j < 2, (ready.own hasty j).isSome = true := by decide +kernel
    exact Option.isSome_iff_exists.mp (hall j (Nat.lt_succ_of_le hj))
  have hraised : 1 - ready.raisedBefore hasty 1 = 0 := by decide +kernel
  obtain ⟨r, hr, htells⟩ := (returns_in_order ready_greeted hasty 1 d hd).2.2 hanswered
  rw [hraised] at hr
  exact ⟨ready_greeted, d, r, hd, hr, htells⟩

end LiveConsole.Net.Dialogue
