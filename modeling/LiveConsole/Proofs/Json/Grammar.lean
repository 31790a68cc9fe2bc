import LiveConsole.Json.Reader

/-!
# The grammar of JSON

Which texts spell which data, whatever reads them. Blanks may stand between any two tokens, characters of
a string may be escaped or not, members may come in any order, and the last of several members with one
name counts. Two escapes that spell the halves of a surrogate pair spell one character. Infinities and
NaN have names, and an integer has a limited number of digits.
-/

namespace LiveConsole.Json
set_option autoImplicit false

def Blank (t : Text) : Prop := ∀ c ∈ t, c ∈ Text.ofString " \t\n\r"

inductive Word : Text → Datum → Prop where
  | null : Word "null" .null
  | true : Word "true" (.flag true)
  | false : Word "false" (.flag false)
  | nan : Word "NaN" (.float Binary64.nan)
  | infinity : Word "Infinity" (.float (Binary64.infinity false))
  | minusInfinity : Word "-Infinity" (.float (Binary64.infinity true))

/-- The letters that may follow a backslash, with the characters that they stand for. -/
def shortEscapes : List (Char × Char) :=
  [('"', '"'), ('\\', '\\'), ('/', '/'), ('b', '\x08'), ('f', '\x0c'), ('n', '\n'), ('r', '\r'),
    ('t', '\t')]

def hexDigits : List (Char × Nat) :=
  "0123456789abcdef".toList.zipIdx ++ "ABCDEF".toList.zipIdx 10

/-- Four hexadecimal digits, with their number. -/
inductive CodeUnit : Text → Nat → Prop where
  | mk {a b c d : Char} {i j k l : Nat} (ha : (a, i) ∈ hexDigits) (hb : (b, j) ∈ hexDigits)
      (hc : (c, k) ∈ hexDigits) (hd : (d, l) ∈ hexDigits) :
      CodeUnit (Text.ofChars [a, b, c, d]) (((i * 16 + j) * 16 + k) * 16 + l)

def escaped (digits : Text) : Text := .scalar '\\' :: .scalar 'u' :: digits

def IsHigh (n : Nat) : Prop := 0xD800 ≤ n ∧ n < 0xDC00

def IsLow (n : Nat) : Prop := 0xDC00 ≤ n ∧ n < 0xE000

instance (n : Nat) : Decidable (IsHigh n) := inferInstanceAs (Decidable (0xD800 ≤ n ∧ n < 0xDC00))

instance (n : Nat) : Decidable (IsLow n) := inferInstanceAs (Decidable (0xDC00 ≤ n ∧ n < 0xE000))

def BeginsLow (t : Text) : Prop :=
  ∃ digits n rest, CodeUnit digits n ∧ IsLow n ∧ t = escaped digits ++ rest

/-- The inside of a string literal, with the string. -/
inductive Letters : Text → Text → Prop where
  | nil : Letters [] []
  | raw {c : CodePoint} {t s : Text} (hq : c ≠ .scalar '"') (hb : c ≠ .scalar '\\')
      (hc : 0x20 ≤ c.value) (h : Letters t s) : Letters (c :: t) (c :: s)
  | short {k c : Char} {t s : Text} (hk : (k, c) ∈ shortEscapes) (h : Letters t s) :
      Letters (.scalar '\\' :: .scalar k :: t) (.scalar c :: s)
  | unicode {digits t s : Text} {n : Nat} (hn : CodeUnit digits n)
      (hlone : IsHigh n → ¬BeginsLow t) (h : Letters t s) :
      Letters (escaped digits ++ t) (CodePoint.ofNat n :: s)
  | pair {high low t s : Text} {m n : Nat} (hm : CodeUnit high m) (hhigh : IsHigh m)
      (hn : CodeUnit low n) (hlow : IsLow n) (h : Letters t s) :
      Letters (escaped high ++ (escaped low ++ t))
        (CodePoint.ofNat (0x10000 + (m - 0xD800) * 0x400 + (n - 0xDC00)) :: s)

def quoted (inside : Text) : Text := .scalar '"' :: (inside ++ [.scalar '"'])

/-- Decimal digits, at least one. -/
def Decimal (ds : List Char) : Prop := ds ≠ [] ∧ ∀ c ∈ ds, c ∈ "0123456789".toList

/-- Only zero itself begins with a zero. -/
def Whole (ds : List Char) : Prop := Decimal ds ∧ (ds.head? = some '0' → ds = ['0'])

/-- The part of a number behind its point, if it has one. -/
inductive Fraction : Text → List Char → Prop where
  | none : Fraction [] []
  | some {ds : List Char} (h : Decimal ds) : Fraction (.scalar '.' :: Text.ofChars ds) ds

inductive Exponent : Text → Int → Prop where
  | none : Exponent [] 0
  | unsigned {e : Char} {ds : List Char} (he : e = 'e' ∨ e = 'E') (h : Decimal ds) :
      Exponent (.scalar e :: Text.ofChars ds) (Digits.value ds)
  | plus {e : Char} {ds : List Char} (he : e = 'e' ∨ e = 'E') (h : Decimal ds) :
      Exponent (.scalar e :: .scalar '+' :: Text.ofChars ds) (Digits.value ds)
  | minus {e : Char} {ds : List Char} (he : e = 'e' ∨ e = 'E') (h : Decimal ds) :
      Exponent (.scalar e :: .scalar '-' :: Text.ofChars ds) (-Digits.value ds)

def sign (negative : Bool) : Text := if negative then [.scalar '-'] else []

inductive Number : Text → Datum → Prop where
  | int {negative : Bool} {ds : List Char} (hds : Whole ds) (hlimit : ds.length ≤ digitLimit) :
      Number (sign negative ++ Text.ofChars ds)
        (.int (if negative then -(Digits.value ds : Int) else Digits.value ds))
  | float {negative : Bool} {ds fs : List Char} {fraction exponent : Text} {e : Int}
      (hds : Whole ds) (hf : Fraction fraction fs) (he : Exponent exponent e)
      (hsome : fraction ++ exponent ≠ []) :
      Number (sign negative ++ (Text.ofChars ds ++ (fraction ++ exponent)))
        (.float (Binary64.ofDecimal negative (Digits.value (ds ++ fs)) (e - fs.length)))

/-- An element of an array, with the blanks around it. -/
structure Element where
  before : Text
  text : Text
  after : Text
  value : Datum

def Element.whole (i : Element) : Text := i.before ++ i.text ++ i.after

def Element.Spaced (i : Element) : Prop := Blank i.before ∧ Blank i.after

/-- A member of an object: its name, with the blanks around it, and its value. -/
structure Member where
  before : Text
  letters : Text
  after : Text
  name : Text
  element : Element

def Member.whole (m : Member) : Text :=
  m.before ++ quoted m.letters ++ m.after ++ .scalar ':' :: m.element.whole

def Member.Spaced (m : Member) : Prop := Blank m.before ∧ Blank m.after ∧ m.element.Spaced

def Member.entry (m : Member) : Datum × Datum := (.text m.name, m.element.value)

/-- Which text spells which value, without blanks around it. -/
inductive Spells : Text → Datum → Prop where
  | word {t : Text} {d : Datum} (h : Word t d) : Spells t d
  | number {t : Text} {d : Datum} (h : Number t d) : Spells t d
  | string {t s : Text} (h : Letters t s) : Spells (quoted t) (.text s)
  | emptyArray {b : Text} (hb : Blank b) : Spells (.scalar '[' :: (b ++ [.scalar ']'])) (.list [])
  | array {is : List Element} (hne : is ≠ []) (hspaced : ∀ i ∈ is, i.Spaced)
      (h : ∀ i ∈ is, Spells i.text i.value) :
      Spells (.scalar '[' :: (Text.join "," (is.map Element.whole) ++ [.scalar ']']))
        (.list (is.map Element.value))
  | emptyObject {b : Text} (hb : Blank b) :
      Spells (.scalar '\x7b' :: (b ++ [.scalar '\x7d'])) (.dict [])
  | object {ms : List Member} (hne : ms ≠ []) (hspaced : ∀ m ∈ ms, m.Spaced)
      (hnames : ∀ m ∈ ms, Letters m.letters m.name)
      (h : ∀ m ∈ ms, Spells m.element.text m.element.value) :
      Spells (.scalar '\x7b' :: (Text.join "," (ms.map Member.whole) ++ [.scalar '\x7d']))
        (.dict (Datum.ofPairs (ms.map Member.entry)))

/-- A whole text that spells a value. -/
def Document (t : Text) (d : Datum) : Prop :=
  ∃ before u after, Blank before ∧ Spells u d ∧ Blank after ∧ t = before ++ u ++ after

end LiveConsole.Json
