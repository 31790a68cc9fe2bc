import LiveConsole.Fault

/-!
# Settings

The options of a console server. Options are laid over the defaults in layers: a layer is applied
as a whole or refused, first for names that are no options and then for the first value that
breaks a rule. The rules ask the values, which may have answers of their own: an answer can change a
state, and it can fail. `Settings` holds only data that keep the rules.
-/

set_option autoImplicit false

namespace LiveConsole

open Datum (Quantity)

/-- The options, in the order in which they are shown. -/
inductive Setting where
  | host
  | port
  | timeout
  | banner
  | backlog
  | recvSize
  | maxLine
deriving DecidableEq

namespace Setting

def all : List Setting := [.host, .port, .timeout, .banner, .backlog, .recvSize, .maxLine]

theorem mem_all (s : Setting) : s ∈ all := by
  cases s <;> decide

def name : Setting → String
  | .host => "host"
  | .port => "port"
  | .timeout => "timeout"
  | .banner => "banner"
  | .backlog => "backlog"
  | .recvSize => "recv_size"
  | .maxLine => "max_line"

def isName (t : Text) : Bool :=
  all.any fun s => t == Text.ofString s.name

end Setting

/-- A length of time in seconds. -/
inductive Seconds where
  | whole (n : Nat)
  | real (x : Float) (nonneg : (Quantity.float x).order (.int 0) ≠ some .lt)

namespace Seconds

def datum : Seconds → Datum
  | .whole n => .int n
  | .real x _ => .float x

/-- A number that is not below zero; no number at all also passes. -/
def ofQuantity? : Quantity → Option Seconds
  | .int n => if 0 ≤ n then some (.whole n.toNat) else none
  | .float x =>
    if h : (Quantity.float x).order (.int 0) = some .lt then none else some (.real x h)

theorem exists_datum_eq_int_iff {n : Int} : (∃ t : Seconds, .int n = t.datum) ↔ 0 ≤ n := by
  constructor
  · rintro ⟨_ | _, h⟩
    · cases h
      exact Int.natCast_nonneg _
    · contradiction
  · intro h
    exact ⟨.whole n.toNat, by rw [datum, Int.toNat_of_nonneg h]⟩

theorem exists_datum_eq_float_iff {x : Float} :
    (∃ t : Seconds, .float x = t.datum) ↔ (Quantity.float x).order (.int 0) ≠ some .lt := by
  constructor
  · rintro ⟨_ | ⟨y, hy⟩, h⟩
    · contradiction
    · cases h
      exact hy
  · intro h
    exact ⟨.real x h, rfl⟩

end Seconds

/-- Values for the options, of any type, not yet checked. -/
abbrev Draft (V : Type) := Setting → V

/-- A question whose answer can change a state, and can be an error. -/
abbrev Asking (ε σ α : Type) := σ → Except ε α × σ

namespace Asking

variable {ε σ : Type}

def yes : Asking ε σ Bool := fun s => (.ok true, s)

/-- The second question is asked only if the answer to the first is yes. -/
def both (a b : Asking ε σ Bool) : Asking ε σ Bool := fun s =>
  match a s with
  | (.ok true, s) => b s
  | answer => answer

def no (a : Asking ε σ Bool) : Asking ε σ Bool := fun s =>
  match a s with
  | (answer, s) => (answer.map (!·), s)

theorem both_eq_true_iff {a b : Asking ε σ Bool} {s s' : σ} :
    both a b s = (.ok true, s') ↔ ∃ s₁, a s = (.ok true, s₁) ∧ b s₁ = (.ok true, s') := by
  unfold both
  rcases a s with ⟨_ | _ | _, s₁⟩ <;> simp

theorem no_eq_true_iff {a : Asking ε σ Bool} {s s' : σ} :
    no a s = (.ok true, s') ↔ a s = (.ok false, s') := by
  unfold no
  rcases a s with ⟨_ | _ | _, s₁⟩ <;> simp [Except.map]

end Asking

/-- What values are asked: whether they are flags, integers, as flags are too, or numbers of any kind,
how they compare, and what their literal form is. Some integers and texts are values. -/
structure Gauge (V ε σ : Type) where
  int : Int → V
  text : Text → V
  isFlag : V → Asking ε σ Bool
  isInt : V → Asking ε σ Bool
  isNumber : V → Asking ε σ Bool
  atMost : V → V → Asking ε σ Bool
  below : V → V → Asking ε σ Bool
  literal : V → Asking ε σ Text

namespace Settings

/-- Why options are refused, if it is not for an error that came up when their values were asked. -/
inductive Refusal (ε : Type := Fault) where
  | unknown (names : List Text)
  | invalid (setting : Setting) (shown : Text)
  | raised (e : ε)
  | unexpected (name : Text)
  | misfit (why : Text)

/-- The error that a refusal is told as: one of its own, or that of a value. -/
def Refusal.fault {ε : Type} : Refusal ε → Except ε Fault
  | .unknown names =>
    .ok (.said .configError ("Unknown config option(s): " ++ Text.join ", " names))
  | .invalid .maxLine shown =>
    .ok (.said .configError ("Invalid max_line " ++ shown ++ ", must be at least recv_size"))
  | .invalid setting shown =>
    .ok (.said .configError ("Invalid " ++ (setting.name : Text) ++ " " ++ shown))
  | .raised e => .error e
  | .unexpected name =>
    .ok (.said .typeError
      ("ReplConfig.__init__() got an unexpected keyword argument '" ++ name ++ "'"))
  | .misfit why => .ok (.said .typeError why)

/-- The options that have a rule, in the order in which they are checked. -/
def ruled : List Setting := [.port, .timeout, .backlog, .recvSize, .maxLine]

/-- The values of a layer laid over others. -/
def overlay {V : Type} (base : Draft V) (layer : List (Datum × V)) : Draft V :=
  fun s => (Datum.field? s.name layer).getD (base s)

theorem overlay_of_not_named {V : Type} {base : Draft V} {layer : List (Datum × V)}
    {s : Setting} (h : Datum.field? s.name layer = none) : overlay base layer s = base s := by
  simp [overlay, h]

def isKnown : Datum → Bool
  | .text t => Setting.isName t
  | _ => false

/-- Refuses names that are no options, all of them listed in order. -/
def refuseUnknown {ε : Type} (names : List Datum) : Except (Refusal ε) Unit :=
  let unknown := names.filter fun d => !isKnown d
  let texts := unknown.filterMap fun
    | .text t => some t
    | _ => none
  match unknown.find? (fun | .text _ => false | _ => true), Text.sortDistinct texts with
  | none, [] => .ok ()
  | none, names => .error (.unknown names)
  | some odd, [] =>
    .error (.misfit ("sequence item 0: expected str instance, " ++ (odd.kindName : Text)
      ++ " found"))
  | some odd, _ =>
    .error (.misfit ("'<' not supported between instances of '" ++ (odd.kindName : Text)
      ++ "' and 'str'"))

section Rules

variable {V ε σ : Type} (g : Gauge V ε σ)

/-- Whether a value is an integer and no flag. -/
def isWhole (v : V) : Asking ε σ Bool :=
  .both (g.isInt v) (.no (g.isFlag v))

/-- Whether the value of an option keeps its rule, given the other values. -/
def keeps (d : Draft V) : Setting → Asking ε σ Bool
  | .host | .banner => .yes
  | .port =>
    .both (isWhole g (d .port))
      (.both (g.atMost (g.int 0) (d .port)) (g.atMost (d .port) (g.int 65535)))
  | .timeout =>
    .both (.no (g.isFlag (d .timeout)))
      (.both (g.isNumber (d .timeout)) (.no (g.below (d .timeout) (g.int 0))))
  | .backlog => .both (isWhole g (d .backlog)) (.no (g.below (d .backlog) (g.int 0)))
  | .recvSize => .both (isWhole g (d .recvSize)) (.no (g.atMost (d .recvSize) (g.int 0)))
  | .maxLine => .both (isWhole g (d .maxLine)) (.no (g.below (d .maxLine) (d .recvSize)))

/-- Checks the rules of some options in their order. A value that breaks its rule is shown. -/
def check (d : Draft V) : List Setting → σ → Except (Refusal ε) Unit × σ
  | [], s => (.ok (), s)
  | t :: rest, s =>
    match keeps g d t s with
    | (.ok true, s) => check d rest s
    | (.ok false, s) =>
      match g.literal (d t) s with
      | (.ok shown, s) => (.error (.invalid t shown), s)
      | (.error e, s) => (.error (.raised e), s)
    | (.error e, s) => (.error (.raised e), s)

/-- Lays a layer over values. The empty layer changes nothing. -/
def lay (d : Draft V) (layer : List (Datum × V)) (s : σ) : Except (Refusal ε) (Draft V) × σ :=
  if layer.isEmpty then (.ok d, s)
  else
    match refuseUnknown (layer.map Prod.fst) with
    | .error r => (.error r, s)
    | .ok () =>
      match check g (overlay d layer) ruled s with
      | (.ok (), s) => (.ok (overlay d layer), s)
      | (.error r, s) => (.error r, s)

/-- The values of the options at first. -/
def initialDraft : Draft V
  | .host => g.text "localhost"
  | .port => g.int 8172
  | .timeout => g.int 0
  | .banner => g.text "UE4SS REPL ready!"
  | .backlog => g.int 5
  | .recvSize => g.int 4096
  | .maxLine => g.int 1048576

/-- Lays two layers over values. -/
def layTwo (d : Draft V) (a b : List (Datum × V)) (s : σ) :
    Except (Refusal ε) (Draft V) × σ :=
  match lay g d a s with
  | (.ok d, s) => lay g d b s
  | refused => refused

/-- Lays two layers over the values at first, which are checked like all others. -/
def assemble (a b : List (Datum × V)) (s : σ) : Except (Refusal ε) (Draft V) × σ :=
  match check g (initialDraft g) ruled s with
  | (.ok (), s) => layTwo g (initialDraft g) a b s
  | (.error r, s) => (.error r, s)

end Rules

/-- An order relation between data; those that are no numbers have none here. -/
def related (sign : Text) (holds : Ordering → Bool) (a b : Datum) : Except Fault Bool :=
  match a.quantity?, b.quantity? with
  | some x, some y => .ok ((x.order y).any holds)
  | _, _ =>
    .error (.said .typeError ("'" ++ sign ++ "' not supported between instances of '"
      ++ (a.kindName : Text) ++ "' and '" ++ (b.kindName : Text) ++ "'"))

/-- Data have no answers of their own. -/
def gauge : Gauge Datum Fault Unit where
  int := .int
  text := .text
  isFlag
    | .flag _, s => (.ok true, s)
    | _, s => (.ok false, s)
  isInt
    | .flag _, s | .int _, s => (.ok true, s)
    | _, s => (.ok false, s)
  isNumber
    | .flag _, s | .int _, s | .float _, s => (.ok true, s)
    | _, s => (.ok false, s)
  atMost a b s := (related "<=" Ordering.isLE a b, s)
  below a b s := (related "<" Ordering.isLT a b, s)
  literal d s := (d.literal.mapError .unwritable, s)

/-- What an option demands of data. -/
def Rule (d : Draft Datum) : Setting → Prop
  | .host | .banner => True
  | .port => ∃ n : Int, d .port = .int n ∧ 0 ≤ n ∧ n ≤ 65535
  | .timeout => ∃ t : Seconds, d .timeout = t.datum
  | .backlog => ∃ n : Int, d .backlog = .int n ∧ 0 ≤ n
  | .recvSize => ∃ n : Int, d .recvSize = .int n ∧ 0 < n
  | .maxLine => ∃ m n : Int, d .recvSize = .int m ∧ d .maxLine = .int n ∧ m ≤ n

def Valid (d : Draft Datum) : Prop := ∀ s, Rule d s

@[simp] theorem gauge_int (n : Int) : gauge.int n = .int n := rfl

section Data

variable {d : Draft Datum} {s s' : Unit}

theorem isWhole_gauge_iff {v : Datum} :
    isWhole gauge v s = (.ok true, s') ↔ ∃ n, v = .int n := by
  rw [isWhole, Asking.both_eq_true_iff]
  cases v <;> simp [Asking.no_eq_true_iff, gauge]

theorem atMost_gauge_iff {m n : Int} :
    gauge.atMost (.int m) (.int n) s = (.ok true, s') ↔ m ≤ n := by
  change (Except.ok (compare m n).isLE, ()) = (Except.ok true, ()) ↔ m ≤ n
  simp [Int.isLE_compare]

theorem no_atMost_gauge_iff {m n : Int} :
    Asking.no (gauge.atMost (.int m) (.int n)) s = (.ok true, s') ↔ n < m := by
  rw [Asking.no_eq_true_iff]
  change (Except.ok (compare m n).isLE, ()) = (Except.ok false, ()) ↔ n < m
  simp [← Bool.not_eq_true, Int.isLE_compare]

theorem no_below_gauge_iff {m n : Int} :
    Asking.no (gauge.below (.int m) (.int n)) s = (.ok true, s') ↔ n ≤ m := by
  rw [Asking.no_eq_true_iff]
  change (Except.ok (compare m n).isLT, ()) = (Except.ok false, ()) ↔ n ≤ m
  rw [← Int.not_lt, ← Int.compare_eq_lt]
  cases compare m n <;> simp [Ordering.isLT]

theorem no_below_gauge_float_iff {x : Float} {n : Int} :
    Asking.no (gauge.below (.float x) (.int n)) s = (.ok true, s') ↔
      (Quantity.float x).order (.int n) ≠ some .lt := by
  rw [Asking.no_eq_true_iff]
  change (Except.ok (((Quantity.float x).order (.int n)).any Ordering.isLT), ()) =
    (Except.ok false, ()) ↔ _
  cases (Quantity.float x).order (.int n) with
  | none => simp
  | some o => cases o <;> simp [Ordering.isLT]

theorem keeps_timeout_iff :
    keeps gauge d .timeout s = (.ok true, s') ↔ Rule d .timeout := by
  simp only [keeps, Rule, Asking.both_eq_true_iff, gauge_int]
  cases d .timeout with
  | int n =>
    simp only [no_below_gauge_iff, Seconds.exists_datum_eq_int_iff]
    exact ⟨fun ⟨_, _, _, _, h⟩ => h, fun h => ⟨_, rfl, _, rfl, h⟩⟩
  | float x =>
    simp only [no_below_gauge_float_iff, Seconds.exists_datum_eq_float_iff]
    exact ⟨fun ⟨_, _, _, _, h⟩ => h, fun h => ⟨_, rfl, _, rfl, h⟩⟩
  | _ =>
    refine iff_of_false ?_ fun ⟨t, ht⟩ => ?_
    · simp [gauge, Asking.no, Except.map]
    · cases t <;> cases ht

/-- Whether a rule is kept, apart from that of the last option, which looks at two integers. -/
theorem keeps_iff {t : Setting} (ht : t = .maxLine → ∃ m, d .recvSize = .int m) :
    keeps gauge d t s = (.ok true, s') ↔ Rule d t := by
  cases t with
  | host | banner => exact iff_of_true rfl trivial
  | port =>
    simp only [keeps, Rule, Asking.both_eq_true_iff, isWhole_gauge_iff, gauge_int]
    constructor
    · rintro ⟨_, ⟨n, hn⟩, _, hleast, hmost⟩
      rw [hn] at hleast hmost
      exact ⟨n, hn, atMost_gauge_iff.mp hleast, atMost_gauge_iff.mp hmost⟩
    · rintro ⟨n, hn, hleast, hmost⟩
      rw [hn]
      exact ⟨(), ⟨n, rfl⟩, (), atMost_gauge_iff.mpr hleast, atMost_gauge_iff.mpr hmost⟩
  | timeout => exact keeps_timeout_iff
  | backlog =>
    simp only [keeps, Rule, Asking.both_eq_true_iff, isWhole_gauge_iff, gauge_int]
    constructor
    · rintro ⟨_, ⟨n, hn⟩, hleast⟩
      rw [hn] at hleast
      exact ⟨n, hn, no_below_gauge_iff.mp hleast⟩
    · rintro ⟨n, hn, hleast⟩
      rw [hn]
      exact ⟨(), ⟨n, rfl⟩, no_below_gauge_iff.mpr hleast⟩
  | recvSize =>
    simp only [keeps, Rule, Asking.both_eq_true_iff, isWhole_gauge_iff, gauge_int]
    constructor
    · rintro ⟨_, ⟨n, hn⟩, hpos⟩
      rw [hn] at hpos
      exact ⟨n, hn, no_atMost_gauge_iff.mp hpos⟩
    · rintro ⟨n, hn, hpos⟩
      rw [hn]
      exact ⟨(), ⟨n, rfl⟩, no_atMost_gauge_iff.mpr hpos⟩
  | maxLine =>
    obtain ⟨m, hm⟩ := ht rfl
    simp only [keeps, Rule, Asking.both_eq_true_iff, isWhole_gauge_iff, hm]
    constructor
    · rintro ⟨_, ⟨n, hn⟩, hle⟩
      rw [hn] at hle
      exact ⟨m, n, rfl, hn, no_below_gauge_iff.mp hle⟩
    · rintro ⟨k, n, hk, hn, hle⟩
      obtain rfl := Datum.int.inj hk
      rw [hn]
      exact ⟨(), ⟨n, rfl⟩, no_below_gauge_iff.mpr hle⟩

theorem keeps_of_check {ts : List Setting} (h : check gauge d ts s = (.ok (), s')) :
    ∀ t ∈ ts, keeps gauge d t () = (.ok true, ()) := by
  induction ts with
  | nil => simp
  | cons t ts ih =>
    rw [check] at h
    rcases hkeeps : keeps gauge d t s with ⟨_ | _ | _, s₁⟩
    · simp [hkeeps] at h
    · rcases hshown : gauge.literal (d t) s₁ with ⟨_ | _, s₂⟩ <;> simp [hkeeps, hshown] at h
    · rw [hkeeps] at h
      exact List.forall_mem_cons.mpr ⟨hkeeps, ih h⟩

theorem valid_of_check (h : check gauge d ruled s = (.ok (), s')) : Valid d := by
  have hkeeps := keeps_of_check h
  obtain ⟨m, hm, hpos⟩ : Rule d .recvSize :=
    (keeps_iff (by simp)).mp (hkeeps .recvSize (by decide))
  intro t
  cases t with
  | host | banner => trivial
  | maxLine => exact (keeps_iff fun _ => ⟨m, hm⟩).mp (hkeeps .maxLine (by decide))
  | _ => exact (keeps_iff (by simp)).mp (hkeeps _ (by decide))

theorem valid_of_lay {e : Draft Datum} {layer : List (Datum × Datum)} (hd : Valid d)
    (h : lay gauge d layer s = (.ok e, s')) : Valid e := by
  unfold lay at h
  cases hempty : layer.isEmpty with
  | true =>
    simp only [hempty, if_true, Prod.mk.injEq, Except.ok.injEq] at h
    exact h.1 ▸ hd
  | false =>
    rw [hempty, if_neg Bool.false_ne_true] at h
    rcases hnames : refuseUnknown (ε := Fault) (layer.map Prod.fst) with _ | _
    · simp [hnames] at h
    · rcases hcheck : check gauge (overlay d layer) ruled s with ⟨_ | _, s₁⟩
      · simp [hnames, hcheck] at h
      · simp only [hnames, hcheck, Prod.mk.injEq, Except.ok.injEq] at h
        exact h.1 ▸ valid_of_check hcheck

end Data

end Settings

/-- Checked options. -/
structure Settings where
  host : Datum
  port : Fin 65536
  timeout : Seconds
  banner : Datum
  backlog : Nat
  recvSize : Nat
  maxLine : Nat
  recvSize_pos : 0 < recvSize
  recvSize_le_maxLine : recvSize ≤ maxLine

namespace Settings

def initial : Settings :=
  ⟨.text "localhost", 8172, .whole 0, .text "UE4SS REPL ready!", 5, 4096, 1048576,
    by decide, by decide⟩

def draft (s : Settings) : Draft Datum
  | .host => s.host
  | .port => .int s.port.val
  | .timeout => s.timeout.datum
  | .banner => s.banner
  | .backlog => .int s.backlog
  | .recvSize => .int s.recvSize
  | .maxLine => .int s.maxLine

theorem draft_initial : initial.draft = initialDraft gauge := by
  funext s
  cases s <;> rfl

/-- Checked options keep the rules. -/
theorem valid_draft (s : Settings) : Valid s.draft := by
  intro t
  cases t with
  | host | banner => trivial
  | port => exact ⟨s.port.val, rfl, by omega, by omega⟩
  | timeout => exact ⟨s.timeout, rfl⟩
  | backlog => exact ⟨s.backlog, rfl, by omega⟩
  | recvSize => exact ⟨s.recvSize, rfl, by have := s.recvSize_pos; omega⟩
  | maxLine =>
    exact ⟨s.recvSize, s.maxLine, rfl, rfl, by have := s.recvSize_le_maxLine; omega⟩

/-- The integer that a datum is; one that is none counts as zero. -/
def integer : Datum → Int
  | .int n => n
  | _ => 0

/-- The length of time that a number is, if it is one. -/
def seconds? (d : Datum) : Option Seconds := d.number?.bind Seconds.ofQuantity?

theorem seconds?_datum (t : Seconds) : seconds? t.datum = some t := by
  cases t with
  | whole n => simp [seconds?, Datum.number?, Seconds.datum, Seconds.ofQuantity?]
  | real x nonneg => simp [seconds?, Datum.number?, Seconds.datum, Seconds.ofQuantity?, nonneg]

theorem integer_le_of_valid {d : Draft Datum} (h : Valid d) :
    0 < integer (d .recvSize) ∧ integer (d .recvSize) ≤ integer (d .maxLine) := by
  obtain ⟨m, n, hm, hn, hle⟩ := h .maxLine
  obtain ⟨k, hk, hpos⟩ := h .recvSize
  rw [hm] at hk
  obtain rfl := Datum.int.inj hk
  rw [hm, hn]
  exact ⟨hpos, hle⟩

/-- The options of values that keep the rules. -/
def ofDraft (d : Draft Datum) (h : Valid d) : Settings where
  host := d .host
  port := ⟨(integer (d .port)).toNat, by
    obtain ⟨n, hn, -, hmost⟩ := h .port
    rw [hn]
    change n.toNat < 65536
    omega⟩
  timeout := (seconds? (d .timeout)).get (by
    obtain ⟨t, ht⟩ := h .timeout
    rw [ht, seconds?_datum]
    rfl)
  banner := d .banner
  backlog := (integer (d .backlog)).toNat
  recvSize := (integer (d .recvSize)).toNat
  maxLine := (integer (d .maxLine)).toNat
  recvSize_pos := by
    have hsizes := integer_le_of_valid h
    omega
  recvSize_le_maxLine := by
    have hsizes := integer_le_of_valid h
    omega

/-- The names that a layer without values brings: elements or characters. -/
def names? : Datum → Option (List Datum)
  | .list items => some items
  | .tuple items => some items
  | .text t => some (t.map fun c => .text [c])
  | .octets bs => some (bs.map fun b => .int b.toNat)
  | _ => none

/-- Lays a layer over settings. A layer that counts as empty changes nothing. -/
def merge (s : Settings) (layer : Datum) : Except Refusal Settings :=
  match layer with
  | .dict entries =>
    match h : lay gauge s.draft entries () with
    | (.ok d, _) => .ok (ofDraft d (valid_of_lay s.valid_draft h))
    | (.error r, _) => .error r
  | layer =>
    if layer.isFalsy then .ok s
    else
      match names? layer with
      | none => .error (.misfit ("'" ++ (layer.kindName : Text) ++ "' object is not iterable"))
      | some names => do
        refuseUnknown names
        .error (.misfit ("dataclasses.replace() argument after ** must be a mapping, not "
          ++ (layer.kindName : Text)))

/-- Settings from values for some options, the others as initially. -/
def ofFields (fields : List (Datum × Datum)) : Except Refusal Settings :=
  match fields.find? (fun e => !isKnown e.1) with
  | some (.text name, _) => .error (.unexpected name)
  | some (_, _) => .error (.misfit "keywords must be strings")
  | none =>
    match h : check gauge (overlay initial.draft fields) ruled () with
    | (.ok (), _) => .ok (ofDraft (overlay initial.draft fields) (valid_of_check h))
    | (.error r, _) => .error r

/-- Where settings start from: nothing, settings, or a layer over the initial ones. -/
inductive Base where
  | initial
  | settings (s : Settings)
  | layer (d : Datum)

/-- Settings in layers: the base, then the overrides. -/
def make (base : Base) (overrides : Datum) : Except Refusal Settings := do
  let s ← match base with
    | .initial => .ok Settings.initial
    | .settings s => .ok s
    | .layer d => Settings.initial.merge d
  s.merge overrides

/-- Whether two settings agree, where an option that a layer does not name counts as the same. -/
def agree (s t : Settings) (layer : Datum) : Bool :=
  Setting.all.all fun f =>
    match layer with
    | .dict entries =>
      (Datum.field? f.name entries).isNone || Datum.equal (s.draft f) (t.draft f)
    | _ => true

/-- The settings with the name of each option. -/
def literal (s : Settings) : Except Digits.TooLong Text := do
  let fields ← Setting.all.mapM fun f => do
    return f.name ++ "=" ++ (← (s.draft f).literal)
  return "ReplConfig(" ++ Text.join ", " fields ++ ")"

end Settings

end LiveConsole
