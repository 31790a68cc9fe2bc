import LiveConsole.Json.Reader

/-!
# What is read can be written

The reader takes no numeral that is too long to be written again. So every value that it gives has a
literal form, however it is nested.
-/

namespace LiveConsole
set_option autoImplicit false

namespace Digits

theorem digit_lt {c : Char} (hc : c.isDigit = true) : c.toNat - '0'.toNat < 10 := by
  have hnine : c.val ≤ '9'.val := by
    simp only [Char.isDigit, Bool.and_eq_true, decide_eq_true_eq] at hc
    exact hc.2
  have hle : c.toNat ≤ '9'.toNat := UInt32.le_iff_toNat_le.mp hnine
  have hgap : '9'.toNat = '0'.toNat + 9 := rfl
  omega

theorem tenTo_le_tenTo {m n : Nat} (h : m ≤ n) : tenTo m ≤ tenTo n :=
  Nat.pow_le_pow_right (by decide) h

theorem foldl_lt {ds : List Char} (hds : ∀ c ∈ ds, c.isDigit = true) (n : Nat) :
    ds.foldl (fun n c => n * 10 + (c.toNat - '0'.toNat)) n < (n + 1) * tenTo ds.length := by
  induction ds generalizing n with
  | nil => simp
  | cons c ds ih =>
    have hc := digit_lt (hds c List.mem_cons_self)
    have hle : n * 10 + (c.toNat - '0'.toNat) + 1 ≤ (n + 1) * 10 := by omega
    calc (c :: ds).foldl (fun n c => n * 10 + (c.toNat - '0'.toNat)) n
        < (n * 10 + (c.toNat - '0'.toNat) + 1) * tenTo ds.length :=
          ih (fun d hd => hds d (List.mem_cons_of_mem c hd)) _
      _ ≤ (n + 1) * 10 * tenTo ds.length := Nat.mul_le_mul_right _ hle
      _ = (n + 1) * tenTo (c :: ds).length := by
          rw [List.length_cons, tenTo_succ, Nat.mul_assoc, Nat.mul_comm 10]

theorem fits_value {ds : List Char} (hds : ∀ c ∈ ds, c.isDigit = true)
    (hlen : ds.length ≤ digitLimit) : fits (value ds : Int) = true := by
  have hlt : value ds < tenTo ds.length := by
    have := foldl_lt hds 0
    rwa [Nat.zero_add, Nat.one_mul] at this
  exact decide_eq_true (Nat.lt_of_lt_of_le hlt (tenTo_le_tenTo hlen))

end Digits

namespace Datum

def HasLiteral (d : Datum) : Prop := ∃ t, d.literal = .ok t

theorem hasLiteral_int {n : Int} (h : Digits.fits n = true) : HasLiteral (.int n) :=
  ⟨_, Digits.write_eq_ok_iff.mpr ⟨h, rfl⟩⟩

theorem hasLiteral_list {items : List Datum} (h : ∀ d ∈ items, HasLiteral d) :
    HasLiteral (.list items) := by
  have hitems : ∃ ts, literals items = .ok ts := by
    induction items with
    | nil => exact ⟨[], rfl⟩
    | cons d items ih =>
      obtain ⟨t, ht⟩ := h d List.mem_cons_self
      obtain ⟨ts, hts⟩ := ih fun e he => h e (List.mem_cons_of_mem d he)
      refine ⟨t :: ts, ?_⟩
      rw [literals, ht, hts]
      rfl
  obtain ⟨ts, hts⟩ := hitems
  refine ⟨"[" ++ Text.join ", " ts ++ "]", ?_⟩
  rw [literal, hts]
  rfl

def HasLiterals (e : Datum × Datum) : Prop := HasLiteral e.1 ∧ HasLiteral e.2

theorem hasLiteral_dict {entries : List (Datum × Datum)} (h : ∀ e ∈ entries, HasLiterals e) :
    HasLiteral (.dict entries) := by
  have hentries : ∃ ts, literalEntries entries = .ok ts := by
    induction entries with
    | nil => exact ⟨[], rfl⟩
    | cons e entries ih =>
      obtain ⟨⟨k, hk⟩, v, hv⟩ := h e List.mem_cons_self
      obtain ⟨ts, hts⟩ := ih fun x hx => h x (List.mem_cons_of_mem e hx)
      refine ⟨(k ++ ": " ++ v) :: ts, ?_⟩
      rw [literalEntries, hk, hv, hts]
      rfl
  obtain ⟨ts, hts⟩ := hentries
  refine ⟨"\x7b" ++ Text.join ", " ts ++ "\x7d", ?_⟩
  rw [literal, hts]
  rfl

theorem hasLiterals_of_literalEntries {entries : List (Datum × Datum)} {ts : List Text}
    (h : literalEntries entries = .ok ts) : ∀ e ∈ entries, HasLiterals e := by
  induction entries generalizing ts with
  | nil => simp
  | cons e entries ih =>
    obtain ⟨k, v⟩ := e
    rw [literalEntries] at h
    rcases hk : literal k with _ | key
    · rw [hk] at h
      contradiction
    rcases hv : literal v with _ | value
    · rw [hk, hv] at h
      contradiction
    rcases hrest : literalEntries entries with _ | rest
    · rw [hk, hv, hrest] at h
      contradiction
    exact List.forall_mem_cons.mpr ⟨⟨⟨key, hk⟩, value, hv⟩, ih hrest⟩

/-- A dictionary is written only together with what it holds. -/
theorem hasLiterals_of_dict {entries : List (Datum × Datum)} (h : HasLiteral (.dict entries)) :
    ∀ e ∈ entries, HasLiterals e := by
  obtain ⟨t, ht⟩ := h
  rw [literal] at ht
  rcases hentries : literalEntries entries with _ | ts
  · rw [hentries] at ht
    contradiction
  · exact hasLiterals_of_literalEntries hentries

theorem hasLiterals_assign {key value : Datum} {entries : List (Datum × Datum)}
    (hkey : HasLiteral key) (hvalue : HasLiteral value) (h : ∀ e ∈ entries, HasLiterals e) :
    ∀ e ∈ assign key value entries, HasLiterals e := by
  induction entries with
  | nil =>
    intro e he
    obtain rfl := List.mem_singleton.mp he
    exact ⟨hkey, hvalue⟩
  | cons x entries ih =>
    obtain ⟨hx, hrest⟩ := List.forall_mem_cons.mp h
    rw [assign]
    split
    · exact List.forall_mem_cons.mpr ⟨⟨hx.1, hvalue⟩, hrest⟩
    · exact List.forall_mem_cons.mpr ⟨hx, ih hrest⟩

/-- What a dictionary holds under a name. -/
theorem hasLiteral_of_field? {name : Text} {entries : List (Datum × Datum)} {d : Datum}
    (h : ∀ e ∈ entries, HasLiterals e) (hd : field? name entries = some d) : HasLiteral d := by
  induction entries with
  | nil => contradiction
  | cons e entries ih =>
    obtain ⟨he, hrest⟩ := List.forall_mem_cons.mp h
    obtain ⟨k, v⟩ := e
    cases k with
    | text k =>
      rw [field?] at hd
      split at hd
      · obtain rfl := Option.some.inj hd
        exact he.2
      · exact ih hrest hd
    | _ => exact ih hrest hd

end Datum

namespace Json

open Datum

theorem isDigit_of_digit? {c : CodePoint} {d : Char} (h : digit? c = some d) :
    d.isDigit = true := by
  cases c with
  | lone half => contradiction
  | scalar c =>
    rw [digit?] at h
    split at h
    · next hc =>
      obtain rfl := Option.some.inj h
      exact hc
    · contradiction

theorem isDigit_of_mem_takeDigits {found : List Char} (hfound : ∀ c ∈ found, c.isDigit = true)
    (t : Text) : ∀ c ∈ (takeDigits found t).1, c.isDigit = true := by
  fun_induction takeDigits found t with
  | case1 =>
    intro c hc
    exact hfound c (List.mem_reverse.mp hc)
  | case2 found c rest d hd ih =>
    exact ih (List.forall_mem_cons.mpr ⟨isDigit_of_digit? hd, hfound⟩)
  | case3 =>
    intro c hc
    exact hfound c (List.mem_reverse.mp hc)

theorem isDigit_of_mem_whole {t after : Text} {ds : List Char} (h : (match t with
    | .scalar '0' :: rest => (['0'], rest)
    | _ => takeDigits [] t) = (ds, after)) : ∀ c ∈ ds, c.isDigit = true := by
  split at h
  · obtain ⟨rfl, _⟩ := Prod.mk.inj h
    intro c hc
    obtain rfl := List.mem_singleton.mp hc
    rfl
  · have hnil : ∀ c ∈ ([] : List Char), c.isDigit = true := by simp
    have hdigits := isDigit_of_mem_takeDigits hnil t
    rw [h] at hdigits
    exact hdigits

theorem hasLiteral_number {start body rest : Text} {negative : Bool} {d : Datum}
    (h : number start negative body = .ok (d, rest)) : HasLiteral d := by
  unfold number at h
  dsimp only at h
  split at h
  · contradiction
  · next ds after _ hmatch =>
    have hds : ∀ c ∈ ds, c.isDigit = true := isDigit_of_mem_whole hmatch
    split at h
    · split at h
      · contradiction
      · next hlen =>
        have hfits := Digits.fits_value hds (Nat.le_of_not_lt hlen)
        obtain ⟨rfl, _⟩ := Prod.mk.inj (Except.ok.inj h)
        apply hasLiteral_int
        cases negative
        · exact hfits
        · exact (Digits.fits_neg _).trans hfits
    · obtain ⟨rfl, _⟩ := Prod.mk.inj (Except.ok.inj h)
      exact ⟨_, rfl⟩

theorem hasLiteral_word? {t rest : Text} {d : Datum} (h : word? t = some (d, rest)) :
    HasLiteral d := by
  obtain ⟨⟨w, v⟩, hw, h⟩ := List.exists_of_findSome?_eq_some h
  dsimp only at h
  split at h
  · obtain ⟨rfl, _⟩ := Prod.mk.inj (Option.some.inj h)
    simp only [words, List.mem_cons, Prod.mk.injEq, List.not_mem_nil, or_false] at hw
    rcases hw with ⟨_, rfl⟩ | ⟨_, rfl⟩ | ⟨_, rfl⟩ | ⟨_, rfl⟩ | ⟨_, rfl⟩ | ⟨_, rfl⟩
    all_goals exact ⟨_, rfl⟩
  · contradiction

/-- Every value that a reader gives has a literal form. -/
def Literal (inner : Text → Except Trouble (Found Datum)) : Prop :=
  ∀ t d rest, inner t = .ok (d, rest) → HasLiteral d

section Inside
variable {inner : Text → Except Trouble (Found Datum)} (hinner : Literal inner)
include hinner

theorem hasLiteral_elements {fuel : Nat} {found : List Datum} {t rest : Text} {d : Datum}
    (hfound : ∀ d ∈ found, HasLiteral d) (h : elements inner fuel found t = .ok (d, rest)) :
    HasLiteral d := by
  induction fuel generalizing found t with
  | zero => contradiction
  | succ fuel ih =>
    rw [elements] at h
    rcases hr : inner t with e | ⟨v, after⟩
    · rw [hr] at h
      contradiction
    · rw [hr] at h
      simp only [bind, Except.bind] at h
      have hfound' : ∀ d ∈ v :: found, HasLiteral d :=
        List.forall_mem_cons.mpr ⟨hinner t v after hr, hfound⟩
      split at h
      · obtain ⟨rfl, _⟩ := Prod.mk.inj (Except.ok.inj h)
        apply hasLiteral_list
        intro d hd
        exact hfound' d (List.mem_reverse.mp hd)
      · exact ih hfound' h
      · contradiction

theorem hasLiteral_members {fuel : Nat} {found : List (Datum × Datum)} {t rest : Text} {d : Datum}
    (hfound : ∀ e ∈ found, HasLiterals e) (h : members inner fuel found t = .ok (d, rest)) :
    HasLiteral d := by
  induction fuel generalizing found t with
  | zero => contradiction
  | succ fuel ih =>
    rw [members.eq_def] at h
    dsimp only at h
    split at h
    · next body =>
      rcases hname : stringBody (.scalar '"' :: body) false [] body with e | ⟨name, after⟩
      · rw [hname] at h
        contradiction
      · rw [hname] at h
        simp only [bind, Except.bind] at h
        split at h
        · next after _ =>
          rcases hr : inner (skipSpace after) with e | ⟨v, after'⟩
          · rw [hr] at h
            contradiction
          · rw [hr] at h
            dsimp only at h
            have hkey : HasLiteral (.text name) := ⟨_, rfl⟩
            have hfound' := hasLiterals_assign hkey (hinner _ v after' hr) hfound
            split at h
            · obtain ⟨rfl, _⟩ := Prod.mk.inj (Except.ok.inj h)
              exact hasLiteral_dict hfound'
            · exact ih hfound' h
            · contradiction
        · contradiction
    · contradiction

end Inside

theorem literal_valueWith (fuel : Nat) {inner : Option (Text → Except Trouble (Found Datum))}
    (hinner : ∀ i, inner = some i → Literal i) : Literal (valueWith fuel inner) := by
  intro t d rest h
  unfold valueWith at h
  split at h
  · next body =>
    rcases hs : stringBody (.scalar '"' :: body) false [] body with e | ⟨s, after⟩
    · rw [hs] at h
      contradiction
    · rw [hs] at h
      obtain ⟨rfl, _⟩ := Prod.mk.inj (Except.ok.inj h)
      exact ⟨_, rfl⟩
  · split at h
    · contradiction
    · next i =>
      split at h
      · obtain ⟨rfl, _⟩ := Prod.mk.inj (Except.ok.inj h)
        exact ⟨_, rfl⟩
      · exact hasLiteral_elements (hinner i rfl) (by simp) h
  · split at h
    · contradiction
    · next i =>
      split at h
      · obtain ⟨rfl, _⟩ := Prod.mk.inj (Except.ok.inj h)
        exact ⟨_, rfl⟩
      · exact hasLiteral_members (hinner i rfl) (by simp) h
  · split at h
    · next found hword =>
      obtain rfl := Except.ok.inj h
      exact hasLiteral_word? hword
    · split at h
      · exact hasLiteral_number h
      · exact hasLiteral_number h

theorem literal_value (fuel depth : Nat) : Literal (value fuel depth) := by
  induction depth with
  | zero =>
    apply literal_valueWith
    intro i hi
    contradiction
  | succ depth ih =>
    apply literal_valueWith
    intro i hi
    exact Option.some.inj hi ▸ ih

theorem hasLiteral_read {room : Nat} {t : Text} {d : Datum} (h : read room t = .ok d) :
    HasLiteral d := by
  have hd : document room t = .ok d := by
    unfold read at h
    split at h
    · next v hv =>
      obtain rfl := Except.ok.inj h
      exact hv
    · contradiction
  unfold document at hd
  split at hd
  · contradiction
  · rcases hv : value (t.length + 1) (room + 1) (skipSpace t) with e | ⟨v, rest⟩
    · rw [hv] at hd
      contradiction
    · rw [hv] at hd
      simp only [bind, Except.bind] at hd
      split at hd
      · obtain rfl := Except.ok.inj hd
        exact literal_value _ _ _ _ _ hv
      · contradiction

end Json
end LiveConsole
