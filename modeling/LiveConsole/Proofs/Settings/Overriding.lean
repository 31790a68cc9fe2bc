import LiveConsole.Console.Evaluator
import LiveConsole.Console.Scripts
import LiveConsole.Proofs.Settings.Layers

/-!
# Laying one layer over another

Later layers win. Two layers that can be laid one after the other give what their union gives at once, but
the rules are checked after each of them.
-/

namespace LiveConsole
set_option autoImplicit false

namespace Settings

variable {V ε σ : Type}

/-- Both layers in one; the second wins. -/
def union (a b : List (Text × V)) : List (Text × V) :=
  a.map (fun e => (e.1, (b.lookup e.1).getD e.2)) ++ b.filter fun e => (a.lookup e.1).isNone

theorem lookup_map_name (f : Text → V → V) (k : Text) (layer : List (Text × V)) :
    (layer.map fun e => (e.1, f e.1 e.2)).lookup k = (layer.lookup k).map (f k) := by
  induction layer with
  | nil => rfl
  | cons e layer ih =>
    obtain ⟨name, v⟩ := e
    by_cases hk : k = name
    · subst hk
      simp
    · have hbeq : (k == name) = false := beq_eq_false_iff_ne.mpr hk
      simp [List.lookup_cons, hbeq, ih]

theorem lookup_filter_name (keep : Text → Bool) (k : Text) (layer : List (Text × V)) :
    (layer.filter fun e => keep e.1).lookup k = if keep k then layer.lookup k else none := by
  induction layer with
  | nil => simp
  | cons e layer ih =>
    obtain ⟨name, v⟩ := e
    by_cases hk : k = name
    · subst hk
      cases hkeep : keep k <;> simp [hkeep, ih]
    · have hbeq : (k == name) = false := beq_eq_false_iff_ne.mpr hk
      cases hkeep : keep name <;> simp [List.lookup_cons, hbeq, hkeep, ih]

theorem lookup_union (a b : List (Text × V)) (k : Text) :
    (union a b).lookup k = (b.lookup k).or (a.lookup k) := by
  rw [union, List.lookup_append, lookup_map_name fun name v => (b.lookup name).getD v,
    lookup_filter_name fun name => (a.lookup name).isNone]
  cases a.lookup k <;> cases b.lookup k <;> rfl

theorem overlaid_union (base : Draft V) (a b : List (Text × V)) :
    overlaid base (union a b) = overlaid (overlaid base a) b := by
  funext s
  rw [overlaid_eq, overlaid_eq, overlaid_eq, lookup_union]
  cases b.lookup (Text.ofString s.name) <;> rfl

theorem overlaid_self (base : Draft V) (a : List (Text × V)) :
    overlaid (overlaid base a) a = overlaid base a := by
  funext s
  rw [overlaid_eq, overlaid_eq]
  cases a.lookup (Text.ofString s.name) <;> rfl

theorem mem_names_union {a b : List (Text × V)} {t : Text} :
    t ∈ (union a b).map Prod.fst ↔ t ∈ a.map Prod.fst ∨ t ∈ b.map Prod.fst := by
  simp only [← isSome_lookup_iff, lookup_union, Option.isSome_or, Bool.or_eq_true]
  exact or_comm

theorem known_union {a b : List (Text × V)} : Known (union a b) ↔ Known a ∧ Known b := by
  simp only [Known, mem_names_union, or_imp, forall_and]

/-- Each rule has one answer, in every state, and asking for it leaves the state. -/
def Steady (g : Gauge V ε σ) : Prop := ∀ d t, ∃ a, ∀ s, keeps g d t s = (a, s)

/-- Values keep all rules, whatever the state. -/
def Approves (g : Gauge V ε σ) (d : Draft V) : Prop := ∀ s, Kept g d ruled s s

section Union
variable {g : Gauge V ε σ} {p q d : Draft V} {a b : List (Text × V)} {ts : List Setting} {s s' : σ}

theorem Steady.kept (hg : Steady g) (h : Kept g d ts s s') :
    s' = s ∧ ∀ s₁, Kept g d ts s₁ s₁ := by
  induction h with
  | nil => exact ⟨rfl, fun _ => .nil⟩
  | @cons t ts s s₁ s' ht _ ih =>
    obtain ⟨answer, hanswer⟩ := hg d t
    obtain ⟨rfl, hstate⟩ := Prod.mk.inj ((hanswer s).symm.trans ht)
    obtain ⟨hsame, hrest⟩ := ih
    exact ⟨hsame.trans hstate.symm, fun s₂ => .cons (hanswer s₂) (hrest s₂)⟩

/-- Of values that keep the rules, a layer can be laid if those that come of it keep them as well. -/
theorem Steady.laid_iff (hg : Steady g) (hp : Approves g p) :
    Laid g p a s s' ↔ s' = s ∧ Known a ∧ Approves g (overlaid p a) := by
  constructor
  · rintro ⟨hknown, ⟨rfl, rfl⟩ | ⟨-, hkept⟩⟩
    · exact ⟨rfl, hknown, hp⟩
    · obtain ⟨rfl, hall⟩ := hg.kept hkept
      exact ⟨rfl, hknown, hall⟩
  · rintro ⟨rfl, hknown, happroves⟩
    by_cases hne : a = []
    · exact ⟨hknown, .inl ⟨hne, rfl⟩⟩
    · exact ⟨hknown, .inr ⟨hne, happroves s'⟩⟩

theorem Steady.layTwo_eq_ok_iff (hg : Steady g) (hp : Approves g p) :
    layTwo g p (named a) (named b) s = (.ok q, s') ↔
      q = overlaid (overlaid p a) b ∧ s' = s ∧ Known a ∧ Known b ∧
        Approves g (overlaid p a) ∧ Approves g (overlaid (overlaid p a) b) := by
  rw [Settings.layTwo_eq_ok_iff]
  constructor
  · rintro ⟨hq, s₁, ha, hb⟩
    obtain ⟨rfl, hknown, happroves⟩ := (hg.laid_iff hp).mp ha
    obtain ⟨rfl, hknown', happroves'⟩ := (hg.laid_iff happroves).mp hb
    exact ⟨hq, rfl, hknown, hknown', happroves, happroves'⟩
  · rintro ⟨hq, rfl, hknown, hknown', happroves, happroves'⟩
    exact ⟨hq, s', (hg.laid_iff hp).mpr ⟨rfl, hknown, happroves⟩,
      (hg.laid_iff happroves).mpr ⟨rfl, hknown', happroves'⟩⟩

theorem Steady.lay_union (hg : Steady g) (hp : Approves g p)
    (h : layTwo g p (named a) (named b) s = (.ok q, s')) :
    lay g p (named (union a b)) s = (.ok q, s') := by
  obtain ⟨rfl, rfl, hknown, hknown', -, happroves⟩ := (hg.layTwo_eq_ok_iff hp).mp h
  have hunion := overlaid_union p a b
  refine lay_eq_ok_iff.mpr ⟨hunion.symm, (hg.laid_iff hp).mpr ?_⟩
  exact ⟨rfl, known_union.mpr ⟨hknown, hknown'⟩, hunion ▸ happroves⟩

/-- What is laid twice changes nothing more. -/
theorem Steady.layTwo_self (hg : Steady g) (hp : Approves g p) :
    layTwo g p (named a) (named a) s = lay g p (named a) s := by
  rw [layTwo]
  rcases hlay : lay g p (named a) s with ⟨r | c, s₁⟩
  · rfl
  · obtain ⟨rfl, hlaid⟩ := lay_eq_ok_iff.mp hlay
    obtain ⟨rfl, hknown, happroves⟩ := (hg.laid_iff hp).mp hlaid
    refine lay_eq_ok_iff.mpr ⟨(overlaid_self p a).symm, (hg.laid_iff happroves).mpr ?_⟩
    exact ⟨rfl, hknown, (overlaid_self p a).symm ▸ happroves⟩

theorem Steady.exists_lay_eq_ok_iff (hg : Steady g) (hp : Approves g p) :
    (∃ q s', lay g p (named a) s = (.ok q, s')) ↔ Known a ∧ Approves g (overlaid p a) := by
  simp only [lay_eq_ok_iff, hg.laid_iff hp]
  exact ⟨fun ⟨_, _, _, _, h⟩ => h, fun h => ⟨_, _, rfl, rfl, h⟩⟩

theorem Steady.exists_layTwo_eq_ok_iff (hg : Steady g) (hp : Approves g p) :
    (∃ q s', layTwo g p (named a) (named b) s = (.ok q, s')) ↔ Known a ∧ Known b ∧
      Approves g (overlaid p a) ∧ Approves g (overlaid (overlaid p a) b) := by
  simp only [hg.layTwo_eq_ok_iff hp]
  exact ⟨fun ⟨_, _, _, _, h⟩ => h, fun h => ⟨_, _, rfl, rfl, h⟩⟩

theorem assemble_of_approves (h : Approves g (initialDraft g)) :
    assemble g (named a) (named b) s = layTwo g (initialDraft g) (named a) (named b) s := by
  rw [assemble, (h s).check]

end Union

theorem steady_gauge : Steady gauge := fun d t => ⟨(keeps gauge d t ()).1, fun _ => rfl⟩

theorem approves_gauge_iff {d : Draft Datum} : Approves gauge d ↔ Valid d :=
  ⟨fun h => kept_ruled_iff.mp (h ()), fun h _ => kept_ruled_iff.mpr h⟩

/-- A layer is refused for its unknown names, whatever their values, or else for the first rule that is
broken, unless an error comes up; a layer that is laid changes what it names. Two layers give what is laid
by the second over the first. If the rules have steady answers, that is what their union gives if the rules
are kept after each, and a layer that is laid twice changes nothing more. -/
theorem right_biased (g : Gauge V ε σ) (p : Draft V) (a b : List (Text × V)) (s : σ) :
    Lays g p a s (lay g p (named a) s) ∧
    (¬Known a → ∃ names, ListsUnknown names a ∧
      lay g p (named a) s = (.error (.unknown names), s)) ∧
    (∀ q s', lay g p (named a) s = (.ok q, s') ↔ q = overlaid p a ∧ Laid g p a s s') ∧
    (∀ t : Setting, Text.ofString t.name ∉ a.map Prod.fst → overlaid p a t = p t) ∧
    (∀ t shown s', lay g p (named a) s = (.error (.invalid t shown), s') ↔ a ≠ [] ∧ Known a ∧
      ∃ s₁, FirstBroken g (overlaid p a) t s s₁ ∧
        g.literal (overlaid p a t) s₁ = (.ok shown, s')) ∧
    (∀ e s', lay g p (named a) s = (.error (.raised e), s') ↔ Troubles g p a s e s') ∧
    (∀ q s', layTwo g p (named a) (named b) s = (.ok q, s') ↔
      q = overlaid (overlaid p a) b ∧ ∃ s₁, Laid g p a s s₁ ∧ Laid g (overlaid p a) b s₁ s') ∧
    overlaid p (union a b) = overlaid (overlaid p a) b ∧
    (Steady g → Approves g p →
      ((∃ q s', lay g p (named a) s = (.ok q, s')) ↔ Known a ∧ Approves g (overlaid p a)) ∧
      ((∃ q s', layTwo g p (named a) (named b) s = (.ok q, s')) ↔ Known a ∧ Known b ∧
        Approves g (overlaid p a) ∧ Approves g (overlaid (overlaid p a) b)) ∧
      (∀ q s', layTwo g p (named a) (named b) s = (.ok q, s') →
        lay g p (named (union a b)) s = (.ok q, s')) ∧
      layTwo g p (named a) (named a) s = lay g p (named a) s) ∧
    (Approves g (initialDraft g) → assemble g (named a) (named b) s =
      layTwo g (initialDraft g) (named a) (named b) s) ∧
    Steady gauge ∧ (∀ d, Approves gauge d ↔ Valid d) ∧
    (∀ (c : Settings) (x : List (Text × Datum)), Valid c.draft ∧
      (c.merge (.dict (named x))).map draft = (lay gauge c.draft (named x) ()).1) ∧
    ∀ x y : List (Text × Datum), make (.layer (.dict (named x))) (.dict (named y)) =
      initial.merge (.dict (named x)) >>= fun c => c.merge (.dict (named y)) :=
  ⟨lays g p a s, lay_of_unknown, fun _ _ => lay_eq_ok_iff, fun _ => overlaid_of_not_mem,
    fun _ _ _ => lay_eq_invalid_iff, fun _ _ => lay_eq_raised_iff,
    fun _ _ => layTwo_eq_ok_iff, overlaid_union p a b,
    fun hg hp => ⟨hg.exists_lay_eq_ok_iff hp, hg.exists_layTwo_eq_ok_iff hp,
      fun _ _ => hg.lay_union hp, hg.layTwo_self hp⟩,
    assemble_of_approves, steady_gauge, fun _ => approves_gauge_iff,
    fun c x => ⟨c.valid_draft, merge_dict c (named x)⟩, fun _ _ => rfl⟩

/-- A line can be made shorter after the size, and not before it. -/
theorem shortened_refused :
    (∃ q s', layTwo gauge initial.draft (named (single .recvSize 1024)) (named (single .maxLine 2048))
      () = (.ok q, s')) ∧
    ¬∃ q s', layTwo gauge initial.draft (named (single .maxLine 2048)) (named (single .recvSize 1024))
      () = (.ok q, s') := by
  have hinitial : Approves gauge initial.draft := approves_gauge_iff.mpr initial.valid_draft
  have hsmall : check gauge (overlaid initial.draft (single .recvSize 1024)) ruled () =
      (.ok (), ()) := rfl
  have hboth : check gauge (overlaid (overlaid initial.draft (single .recvSize 1024))
      (single .maxLine 2048)) ruled () = (.ok (), ()) := rfl
  constructor
  · obtain ⟨-, -, -, -, -, -, -, -, hsteady, -⟩ := right_biased gauge initial.draft
      (single .recvSize 1024) (single .maxLine 2048) ()
    refine (hsteady steady_gauge hinitial).2.1.mpr ⟨known_single _ _, known_single _ _, ?_, ?_⟩
    · exact approves_gauge_iff.mpr (valid_of_check hsmall)
    · exact approves_gauge_iff.mpr (valid_of_check hboth)
  · obtain ⟨-, -, -, -, -, -, -, -, hsteady, -⟩ := right_biased gauge initial.draft
      (single .maxLine 2048) (single .recvSize 1024) ()
    rw [(hsteady steady_gauge hinitial).2.1]
    rintro ⟨-, -, happroves, -⟩
    obtain ⟨m, n, hm, hn, hle⟩ := approves_gauge_iff.mp happroves .maxLine
    obtain rfl : 4096 = m := Datum.int.inj hm
    obtain rfl : 2048 = n := Datum.int.inj hn
    omega

/-- It lays a size with a text of its own over a length of a line that has none. -/
def shortening : Text :=
  "h = __import__('hostrepl')\nclass K(int):\n    def __repr__(self):\n        return 'K'\n"
    ++ "c = h.make_config(max_line=1 << 20000)\ndef f():\n    try:\n"
    ++ "        c.merged(\x7b'recv_size': K(1 << 20001)\x7d)\n    except h.ConfigError:\n"
    ++ "        return 'refused'\n"

/-- The size breaks a rule, and it is not refused with an error of configuration. -/
theorem shortening_unshowable :
    (match Evaluator.evaluate (Context.new "<repl>" : Context scripts) shortening with
    | (_, c) =>
      match (Evaluator.evaluate c "f()").1 with
      | .ok ⟨_, .text t, _⟩ => (Text.ofString "Error: ValueError: ").isPrefixOf t
      | _ => false) = true := by
  decide +kernel

end Settings
end LiveConsole
