import LiveConsole.Proofs.Settings.Rules
import LiveConsole.Proofs.Text.Order
import Mathlib.Data.List.Nodup

/-!
# What becomes of a layer

A layer of named values is laid over others as a whole, or it is refused: first for the names that are no
options, and then for the first value that breaks a rule.
-/

namespace LiveConsole
set_option autoImplicit false

theorem Setting.isName_iff {t : Text} : isName t = true ↔ ∃ s : Setting, t = Text.ofString s.name := by
  simp only [isName, List.any_eq_true, beq_iff_eq]
  exact ⟨fun ⟨s, _, h⟩ => ⟨s, h⟩, fun ⟨s, h⟩ => ⟨s, mem_all s, h⟩⟩

theorem Setting.name_inj {s t : Setting} (h : Text.ofString s.name = Text.ofString t.name) :
    s = t := by
  have hnames : (all.map fun s => Text.ofString s.name).Nodup := by decide
  exact List.inj_on_of_nodup_map hnames (mem_all s) (mem_all t) h

theorem Datum.field?_text {V : Type} (name : Text) (layer : List (Text × V)) :
    field? name (layer.map fun e => (.text e.1, e.2)) = layer.lookup name := by
  induction layer with
  | nil => rfl
  | cons e layer ih =>
    obtain ⟨k, v⟩ := e
    by_cases hk : k = name
    · subst hk
      simp [field?]
    · have hbeq : (name == k) = false := beq_eq_false_iff_ne.mpr (Ne.symm hk)
      simp [field?, hk, ih, List.lookup_cons, hbeq]

namespace Settings

variable {V ε σ : Type}

/-- The entries of a layer whose names are texts. -/
def named (layer : List (Text × V)) : List (Datum × V) := layer.map fun e => (.text e.1, e.2)

def Known (layer : List (Text × V)) : Prop := ∀ t ∈ layer.map Prod.fst, Setting.isName t = true

/-- The names of a layer that are no options, in ascending order. -/
def ListsUnknown (names : List Text) (layer : List (Text × V)) : Prop :=
  Text.Ascending names ∧
    ∀ t, t ∈ names ↔ t ∈ layer.map Prod.fst ∧ Setting.isName t = false

/-- Values with those of a layer instead of the ones it names. -/
def overlaid (base : Draft V) (layer : List (Text × V)) : Draft V := overlay base (named layer)

theorem overlaid_eq (base : Draft V) (layer : List (Text × V)) (s : Setting) :
    overlaid base layer s = (layer.lookup (Text.ofString s.name)).getD (base s) := by
  rw [overlaid, overlay, named, Datum.field?_text]

theorem isSome_lookup_iff {layer : List (Text × V)} {t : Text} :
    (layer.lookup t).isSome = true ↔ t ∈ layer.map Prod.fst := by
  rw [List.lookup_isSome_iff, List.mem_map]
  exact exists_congr fun e => and_congr_right fun _ => beq_iff_eq.trans eq_comm

theorem overlaid_of_not_mem {base : Draft V} {layer : List (Text × V)} {s : Setting}
    (h : Text.ofString s.name ∉ layer.map Prod.fst) : overlaid base layer s = base s := by
  rw [← isSome_lookup_iff, Option.not_isSome_iff_eq_none, ← Datum.field?_text] at h
  exact overlay_of_not_named h

theorem refuseUnknown_texts (ts : List Text) :
    (refuseUnknown (ts.map .text) : Except (Refusal ε) Unit) =
      match Text.sortDistinct (ts.filter fun t => !Setting.isName t) with
      | [] => .ok ()
      | names => .error (.unknown names) := by
  have hunknown : (ts.map Datum.text).filter (fun d => !isKnown d) =
      (ts.filter fun t => !Setting.isName t).map .text := List.filter_map
  have hodd : ∀ unknown : List Text, unknown.find? (fun _ => false) = none := by
    simp
  simp only [refuseUnknown, hunknown, List.find?_map, List.filterMap_map, Function.comp_def, hodd,
    List.filterMap_some, Option.map_none]
  cases Text.sortDistinct (ts.filter fun t => !Setting.isName t) <;> rfl

/-- The names of a layer that are no options, listed. -/
def unlisted (layer : List (Text × V)) : List Text :=
  Text.sortDistinct ((layer.map Prod.fst).filter fun t => !Setting.isName t)

theorem listsUnknown_unlisted (layer : List (Text × V)) : ListsUnknown (unlisted layer) layer := by
  refine ⟨Text.ascending_sortDistinct _, fun t => ?_⟩
  rw [unlisted, Text.mem_sortDistinct, List.mem_filter, Bool.not_eq_true']

theorem unlisted_eq_nil_iff {layer : List (Text × V)} : unlisted layer = [] ↔ Known layer := by
  simp only [List.eq_nil_iff_forall_not_mem, (listsUnknown_unlisted layer).2, Known, not_and,
    Bool.not_eq_false]

section Lay
variable (g : Gauge V ε σ) (p : Draft V) (layer : List (Text × V))

/-- A layer can be laid: all its names are options, and the values that come of it keep the rules. The empty
layer is laid without a question. -/
def Laid (s s' : σ) : Prop :=
  Known layer ∧ (layer = [] ∧ s' = s ∨ layer ≠ [] ∧ Kept g (overlaid p layer) ruled s s')

/-- An error comes up when the values are asked that come of a layer. -/
def Troubles (s : σ) (e : ε) (s' : σ) : Prop :=
  layer ≠ [] ∧ Known layer ∧ Upset g (overlaid p layer) ruled s e s'

/-- What can become of a layer. -/
inductive Lays (s : σ) : Except (Refusal ε) (Draft V) × σ → Prop where
  | unknown {names : List Text} (hunknown : ¬Known layer) (hnames : ListsUnknown names layer) :
      Lays s (.error (.unknown names), s)
  | laid {s' : σ} (h : Laid g p layer s s') : Lays s (.ok (overlaid p layer), s')
  | broken {t : Setting} {shown : Text} {s₁ s' : σ} (hne : layer ≠ []) (hknown : Known layer)
      (h : FirstBroken g (overlaid p layer) t s s₁)
      (hshown : g.literal (overlaid p layer t) s₁ = (.ok shown, s')) :
      Lays s (.error (.invalid t shown), s')
  | troubled {e : ε} {s' : σ} (h : Troubles g p layer s e s') : Lays s (.error (.raised e), s')

end Lay

section Outcomes
variable {g : Gauge V ε σ} {p q : Draft V} {layer : List (Text × V)} {s s' : σ}

theorem lay_of_ne_nil (hne : layer ≠ []) : lay g p (named layer) s =
    match unlisted layer with
    | [] => ((check g (overlaid p layer) ruled s).1.map fun _ => overlaid p layer,
        (check g (overlaid p layer) ruled s).2)
    | names => (.error (.unknown names), s) := by
  have hempty : (named layer).isEmpty = false := by
    cases layer with
    | nil => exact absurd rfl hne
    | cons => rfl
  have hfst : (named layer).map Prod.fst = (layer.map Prod.fst).map .text := by
    simp [named]
  rw [lay, hempty, hfst, refuseUnknown_texts, if_neg Bool.false_ne_true, ← overlaid]
  change _ = match unlisted layer with
    | [] => _
    | names => _
  rw [← unlisted]
  cases unlisted layer with
  | nil => rcases check g (overlaid p layer) ruled s with ⟨_ | _, s₁⟩ <;> rfl
  | cons => rfl

theorem lay_of_known (hne : layer ≠ []) (hknown : Known layer) : lay g p (named layer) s =
    ((check g (overlaid p layer) ruled s).1.map fun _ => overlaid p layer,
      (check g (overlaid p layer) ruled s).2) := by
  rw [lay_of_ne_nil hne, unlisted_eq_nil_iff.mpr hknown]

theorem lay_of_unknown (h : ¬Known layer) : ∃ names, ListsUnknown names layer ∧
    lay g p (named layer) s = (.error (.unknown names), s) := by
  refine ⟨unlisted layer, listsUnknown_unlisted layer, ?_⟩
  have hne : layer ≠ [] := by
    rintro rfl
    exact h (by simp [Known])
  rw [lay_of_ne_nil hne]
  cases hnames : unlisted layer with
  | nil => exact absurd (unlisted_eq_nil_iff.mp hnames) h
  | cons => rfl

theorem lays (g : Gauge V ε σ) (p : Draft V) (layer : List (Text × V)) (s : σ) :
    Lays g p layer s (lay g p (named layer) s) := by
  by_cases hknown : Known layer
  · by_cases hne : layer = []
    · subst hne
      exact .laid ⟨hknown, .inl ⟨rfl, rfl⟩⟩
    · rw [lay_of_known hne hknown]
      have hchecks := checks g (overlaid p layer) ruled s
      generalize check g (overlaid p layer) ruled s = r at hchecks
      cases hchecks with
      | kept h => exact .laid ⟨hknown, .inr ⟨hne, h⟩⟩
      | broken h hshown => exact .broken hne hknown h hshown
      | upset h => exact .troubled ⟨hne, hknown, h⟩
  · obtain ⟨names, hnames, hlay⟩ := lay_of_unknown hknown
    rw [hlay]
    exact .unknown hknown hnames

theorem lay_eq_ok_iff :
    lay g p (named layer) s = (.ok q, s') ↔ q = overlaid p layer ∧ Laid g p layer s s' := by
  constructor
  · intro h
    have hlays := lays g p layer s
    rw [h] at hlays
    cases hlays with
    | laid hlaid => exact ⟨rfl, hlaid⟩
  · rintro ⟨rfl, hknown, ⟨rfl, rfl⟩ | ⟨hne, hkept⟩⟩
    · rfl
    · rw [lay_of_known hne hknown, hkept.check]
      rfl

theorem lay_eq_invalid_iff {t : Setting} {shown : Text} :
    lay g p (named layer) s = (.error (.invalid t shown), s') ↔ layer ≠ [] ∧ Known layer ∧
      ∃ s₁, FirstBroken g (overlaid p layer) t s s₁ ∧
        g.literal (overlaid p layer t) s₁ = (.ok shown, s') := by
  constructor
  · intro h
    have hlays := lays g p layer s
    rw [h] at hlays
    cases hlays with
    | broken hne hknown hbroken hshown => exact ⟨hne, hknown, _, hbroken, hshown⟩
  · rintro ⟨hne, hknown, s₁, hbroken, hshown⟩
    rw [lay_of_known hne hknown, hbroken.check_of_shown hshown]
    rfl

theorem lay_eq_raised_iff {e : ε} :
    lay g p (named layer) s = (.error (.raised e), s') ↔ Troubles g p layer s e s' := by
  constructor
  · intro h
    have hlays := lays g p layer s
    rw [h] at hlays
    cases hlays with
    | troubled htroubles => exact htroubles
  · rintro ⟨hne, hknown, hupset⟩
    rw [lay_of_known hne hknown, hupset.check]
    rfl

variable {a b : List (Text × V)}

theorem layTwo_eq_ok_iff : layTwo g p (named a) (named b) s = (.ok q, s') ↔
    q = overlaid (overlaid p a) b ∧
      ∃ s₁, Laid g p a s s₁ ∧ Laid g (overlaid p a) b s₁ s' := by
  rw [layTwo]
  rcases hlay : lay g p (named a) s with ⟨r | c, s₁⟩
  · refine iff_of_false (by simp) ?_
    rintro ⟨-, s₂, hlaid, -⟩
    rw [lay_eq_ok_iff.mpr ⟨rfl, hlaid⟩] at hlay
    simp at hlay
  · obtain ⟨rfl, hlaid⟩ := lay_eq_ok_iff.mp hlay
    simp only [lay_eq_ok_iff]
    constructor
    · rintro ⟨rfl, hb⟩
      exact ⟨rfl, s₁, hlaid, hb⟩
    · rintro ⟨rfl, s₂, ha, hb⟩
      have hsame := (lay_eq_ok_iff (g := g)).mpr ⟨rfl, ha⟩
      rw [hlay] at hsame
      obtain ⟨-, rfl⟩ := Prod.mk.inj hsame
      exact ⟨rfl, hb⟩

theorem layTwo_eq_raised_iff {e : ε} :
    layTwo g p (named a) (named b) s = (.error (.raised e), s') ↔
      Troubles g p a s e s' ∨
        ∃ s₁, Laid g p a s s₁ ∧ Troubles g (overlaid p a) b s₁ e s' := by
  rw [layTwo]
  rcases hlay : lay g p (named a) s with ⟨r | c, s₁⟩
  · dsimp only
    rw [← hlay, lay_eq_raised_iff]
    refine ⟨.inl, fun h => h.resolve_right ?_⟩
    rintro ⟨s₂, hlaid, -⟩
    rw [lay_eq_ok_iff.mpr ⟨rfl, hlaid⟩] at hlay
    simp at hlay
  · obtain ⟨rfl, hlaid⟩ := lay_eq_ok_iff.mp hlay
    have hnot : ¬Troubles g p a s e s' := by
      rw [← lay_eq_raised_iff, hlay]
      simp
    simp only [lay_eq_raised_iff]
    constructor
    · exact fun h => .inr ⟨s₁, hlaid, h⟩
    · intro h
      obtain ⟨s₂, ha, hb⟩ := h.resolve_left hnot
      have hsame := (lay_eq_ok_iff (g := g)).mpr ⟨rfl, ha⟩
      rw [hlay] at hsame
      obtain ⟨-, rfl⟩ := Prod.mk.inj hsame
      exact hb

end Outcomes

theorem datum_of_seconds? {d : Datum} {t : Seconds} (h : d = t.datum) :
    ((seconds? d).get (by rw [h, seconds?_datum]; rfl)).datum = d := by
  subst h
  simp [seconds?_datum]

/-- Options have the values that they are made of. -/
theorem draft_ofDraft (d : Draft Datum) (h : Valid d) : (ofDraft d h).draft = d := by
  have hwhole {v : Datum} {n : Int} (hv : v = .int n) (hn : 0 ≤ n) :
      Datum.int ((integer v).toNat : Int) = v := by
    subst hv
    exact congrArg Datum.int (Int.toNat_of_nonneg hn)
  obtain ⟨port, hport, hportNonneg, -⟩ := h .port
  obtain ⟨backlog, hbacklog, hbacklogNonneg⟩ := h .backlog
  obtain ⟨size, hsize, hpos⟩ := h .recvSize
  obtain ⟨m, line, hm, hline, hle⟩ := h .maxLine
  obtain ⟨t, ht⟩ := h .timeout
  funext s
  cases s with
  | host | banner => rfl
  | port => exact hwhole hport hportNonneg
  | timeout => exact datum_of_seconds? ht
  | backlog => exact hwhole hbacklog hbacklogNonneg
  | recvSize => exact hwhole hsize (Int.le_of_lt hpos)
  | maxLine =>
    obtain rfl := Datum.int.inj (hm.symm.trans hsize)
    exact hwhole hline (Int.le_trans (Int.le_of_lt hpos) hle)

/-- One option that is given a number. -/
def single (s : Setting) (n : Int) : List (Text × Datum) := [(s.name, .int n)]

theorem known_single (s : Setting) (n : Int) : Known (single s n) := by
  intro t ht
  rw [List.mem_singleton.mp ht]
  exact Setting.isName_iff.mpr ⟨s, rfl⟩

theorem overlaid_single (base : Draft Datum) (s : Setting) (n : Int) :
    overlaid base (single s n) s = .int n := by
  simp [overlaid_eq, single]

theorem merge_dict (s : Settings) (entries : List (Datum × Datum)) :
    (s.merge (.dict entries)).map draft = (lay gauge s.draft entries ()).1 := by
  rw [merge]
  split
  · next d u h =>
    have hfst := congrArg Prod.fst h
    exact (congrArg Except.ok (draft_ofDraft d _)).trans hfst.symm
  · next r u h => exact (congrArg Prod.fst h).symm

theorem merge_of_error {s : Settings} {entries : List (Datum × Datum)} {r : Refusal}
    (h : (lay gauge s.draft entries ()).1 = .error r) : s.merge (.dict entries) = .error r := by
  have hmerge := merge_dict s entries
  rw [h] at hmerge
  cases hresult : s.merge (.dict entries) with
  | error r' =>
    rw [hresult] at hmerge
    exact congrArg Except.error (Except.error.inj hmerge)
  | ok t =>
    rw [hresult] at hmerge
    contradiction

theorem check_initial : check gauge (initialDraft gauge) ruled () = (.ok (), ()) :=
  (kept_ruled_iff.mpr (draft_initial ▸ initial.valid_draft)).check

theorem make_dict (a b : List (Datum × Datum)) :
    (make (.layer (.dict a)) (.dict b)).map draft = (assemble gauge a b ()).1 := by
  have ha := merge_dict initial a
  rw [draft_initial] at ha
  rw [assemble, check_initial, make]
  simp only [layTwo]
  rcases hlay : lay gauge (initialDraft gauge) a () with ⟨r | d, u⟩
  · cases hmerge : initial.merge (.dict a) with
    | error r' =>
      rw [hmerge, hlay] at ha
      obtain rfl := Except.error.inj ha
      rfl
    | ok s =>
      rw [hmerge, hlay] at ha
      contradiction
  · cases hmerge : initial.merge (.dict a) with
    | error r =>
      rw [hmerge, hlay] at ha
      contradiction
    | ok s =>
      rw [hmerge, hlay] at ha
      obtain rfl := Except.ok.inj ha
      exact merge_dict s b

end Settings
end LiveConsole
