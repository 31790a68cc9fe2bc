import LiveConsole.Object.Execution

/-!
# Errors that can be told

The message of an error is made of its arguments, and a class may make it in a way of its own, so
that telling an error may run code or fail. It does neither for an error with simple arguments whose
class leaves the message alone, and is named by no class of its own.
-/

namespace LiveConsole
set_option autoImplicit false

/-- Whether the text of a value takes no code, no other value and no numeral that is too long. -/
def Value.isSimple : Value → Bool
  | .none | .ellipsis | .notImplemented | .flag _ | .float _ | .text _ | .octets _ => true
  | .int n => Digits.fits n
  | .range start stop step => Digits.fits start && Digits.fits stop && Digits.fits step
  | .kind _ | .builtin _ | .method _ _ | .descriptor _ | .module _ => true
  | .tuple _ | .slice .. | .bound _ _ | .view _ _ | .number _ _ | .ref _ => false

namespace Shown

theorem ofWritten_write {n : Int} (h : Digits.fits n = true) :
    (Run.ofWritten (Digits.write n) : Run Text) = pure (Digits.numeral n) := by
  rw [Digits.write_eq_ok_iff.mpr ⟨h, rfl⟩]
  rfl

/-- What a value is written as, when writing it changes nothing. -/
def Writes (write : Form → Value → Run Text) (v : Value) : Prop :=
  ∀ form, ∃ t, write form v = pure t

theorem writes_of_isSimple (i : Interpreter) (bound : Nat) {v : Value} (hv : v.isSimple = true) :
    Writes (write i (bound + 1)) v := by
  intro form
  cases v with
  | int n =>
    rw [Value.isSimple] at hv
    simp only [write, ofWritten_write hv]
    exact ⟨_, rfl⟩
  | range start stop step =>
    simp only [Value.isSimple, Bool.and_eq_true] at hv
    obtain ⟨⟨hstart, hstop⟩, hstep⟩ := hv
    simp only [write, ofWritten_write hstart, ofWritten_write hstop, ofWritten_write hstep,
      pure_bind]
    split
    · exact ⟨_, rfl⟩
    · exact ⟨_, rfl⟩
  | tuple | slice | bound | view | number | ref => contradiction
  | _ => exact ⟨_, rfl⟩

variable {write : Form → Value → Run Text}

theorem each_writes {vs : List Value} (hvs : ∀ v ∈ vs, Writes write v) (form : Form)
    (found : List Text) : ∃ ts, each (write form) vs found = pure ts := by
  induction vs generalizing found with
  | nil => exact ⟨_, rfl⟩
  | cons v vs ih =>
    obtain ⟨hv, hrest⟩ := List.forall_mem_cons.mp hvs
    obtain ⟨t, ht⟩ := hv form
    obtain ⟨ts, hts⟩ := ih hrest (t :: found)
    exact ⟨ts, by rw [each, ht, pure_bind, hts]⟩

theorem message_writes (kind : ErrorKind) {args : List Value} (hargs : ∀ v ∈ args, Writes write v) :
    ∃ t, message write kind args = pure t := by
  unfold message
  split
  · exact ⟨_, rfl⟩
  · next arg _ => exact hargs arg (by simp) .plain
  · next arg _ => exact hargs arg (by simp) .literal
  · next number reason _ =>
    obtain ⟨n, hn⟩ := hargs number (by simp) .plain
    obtain ⟨r, hr⟩ := hargs reason (by simp) .plain
    simp only [hn, hr, pure_bind]
    exact ⟨_, rfl⟩
  · next number reason file _ _ =>
    obtain ⟨n, hn⟩ := hargs number (by simp) .plain
    obtain ⟨r, hr⟩ := hargs reason (by simp) .plain
    obtain ⟨f, hf⟩ := hargs file (by simp) .literal
    simp only [hn, hr, hf, pure_bind]
    exact ⟨_, rfl⟩
  · obtain ⟨ts, hts⟩ := each_writes hargs .literal []
    simp only [hts, pure_bind]
    exact ⟨_, rfl⟩
  · exact ⟨_, rfl⟩

end Shown

namespace Machine

/-- Whether an error has simple arguments and a message made of them, and its class has no class that
names it. -/
def tells (m : Machine) (e : Value) : Bool :=
  match e with
  | .ref a =>
    match m.cell? a with
    | some (.error of args _) =>
      (m.errorKind? of).isSome && (m.member? of "__str__").isNone && args.all Value.isSimple &&
        (m.member? (m.typeOf of) "__name__").isNone
    | _ => false
  | _ => false

/-- The plain form of an error whose class leaves it alone is its message. -/
theorem plain_error (i : Interpreter) {bound : Nat} (hbound : Shown.depthLimit = bound + 1)
    {m : Machine} {a : Address} {of : Value} {args : List Value} {fields : Names}
    {kind : ErrorKind} (hcell : m.cell? a = some (.error of args fields))
    (hkind : m.errorKind? of = some kind) (hown : m.member? of "__str__" = none) :
    (i.plain (.ref a)).run.run m =
      (Shown.message (Shown.write i bound) kind args).run.run m := by
  have htype : m.typeOf (.ref a) = of := by
    rw [typeOf, hcell]
  have hmember : Shown.member? m .plain of = none := by
    simp [Shown.member?, hown, hkind]
  have hmachine {β : Type} (f : Machine → Run β) :
      (Run.machine >>= f).run.run m = (f m).run.run m := rfl
  rw [Interpreter.plain, hbound, Shown.write]
  simp only [hmachine, hcell, htype, hmember, Shown.ofCell, hkind, if_true, Option.getD_some]

/-- A kind or class of errors has a name. -/
theorem read_name {m : Machine} {of : Value} {kind : ErrorKind} (hkind : m.errorKind? of = some kind)
    (hnamed : m.member? (m.typeOf of) "__name__" = none) :
    (Field.read of "__name__").run.run m = (.ok (.text (m.nameOf of)), m) := by
  have hfind : Field.find? m of "__name__" = some (.text (m.nameOf of)) := by
    cases of with
    | kind k => rfl
    | ref a =>
      rcases hcell : m.cell? a with _ | cell
      · simp [errorKind?, rootKind, lineage, hcell] at hkind
      · cases cell with
        | «class» c members =>
          rw [typeOf, hcell] at hnamed
          have hname : Field.ofType? m (.ref a) "__name__" = some (.text (m.nameOf (.ref a))) := rfl
          have hid : Text.toString "__name__" = "__name__" := by decide
          simp [Field.find?, hcell, Field.ofClass?, hnamed, hid, hname]
        | _ => simp [errorKind?, rootKind, lineage, hcell] at hkind
    | _ => simp [errorKind?, rootKind, lineage] at hkind
  have hmachine {β : Type} (f : Machine → Run β) :
      (Run.machine >>= f).run.run m = (f m).run.run m := rfl
  rw [Field.read, Field.get?, bind_assoc]
  simp only [hmachine, hfind, pure_bind]
  rfl

theorem told_of_tells {m : Machine} {e : Value} (h : m.tells e = true) (i : Interpreter) :
    (∃ t, (i.plain e).run.run m = (.ok t, m)) ∧
      (Field.read (m.typeOf e) "__name__").run.run m = (.ok (.text (m.typeName e)), m) := by
  unfold tells at h
  split at h
  · next a =>
    split at h
    · next of args fields hcell =>
      simp only [Bool.and_eq_true, Option.isNone_iff_eq_none, List.all_eq_true,
        Option.isSome_iff_exists] at h
      obtain ⟨⟨⟨⟨kind, hkind⟩, hown⟩, hargs⟩, hnamed⟩ := h
      obtain ⟨bound, hbound⟩ : ∃ bound, Shown.depthLimit = bound + 1 + 1 := ⟨_, rfl⟩
      have hwrites : ∀ v ∈ args, Shown.Writes (Shown.write i (bound + 1)) v := by
        intro v hv
        exact Shown.writes_of_isSimple i bound (hargs v hv)
      obtain ⟨t, ht⟩ := Shown.message_writes kind hwrites
      refine ⟨⟨t, ?_⟩, ?_⟩
      · rw [plain_error i hbound hcell hkind hown, ht]
        rfl
      · have htype : m.typeOf (.ref a) = of := by rw [typeOf, hcell]
        rw [typeName, htype]
        exact read_name hkind hnamed
    · contradiction
  · contradiction

end Machine
end LiveConsole
