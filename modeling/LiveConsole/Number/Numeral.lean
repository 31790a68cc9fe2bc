import LiveConsole.Number.Binary64
import LiveConsole.Number.Digits

/-!
# Reading numerals

An optional sign, digits that single underscores may divide, and for doubles a fraction and an
exponent. Blanks around the numeral do not count.
-/

set_option autoImplicit false

namespace LiveConsole.Numeral

/-- Blank characters, at which texts are trimmed and divided. -/
def isBlank (c : Char) : Bool :=
  let n := c.toNat
  (0x09 ≤ n && n ≤ 0x0D) || (0x1C ≤ n && n ≤ 0x20) || n == 0x85 || n == 0xA0 || n == 0x1680
    || (0x2000 ≤ n && n ≤ 0x200A) || n == 0x2028 || n == 0x2029 || n == 0x202F || n == 0x205F
    || n == 0x3000

def trim (cs : List Char) : List Char :=
  ((cs.dropWhile isBlank).reverse.dropWhile isBlank).reverse

/-- Removes underscores, each of which must stand between two digits. -/
def ungroup? (isDigit : Char → Bool) : List Char → Option (List Char)
  | [] => some []
  | '_' :: _ => none
  | c :: '_' :: d :: rest =>
    if isDigit c && isDigit d then (ungroup? isDigit (d :: rest)).map (c :: ·) else none
  | [_, '_'] => none
  | c :: rest => (ungroup? isDigit rest).map (c :: ·)

def takeSign : List Char → Bool × List Char
  | '-' :: rest => (true, rest)
  | '+' :: rest => (false, rest)
  | rest => (false, rest)

/-- Why a text is not read as an integer. -/
inductive IntRefusal where
  | malformed
  | tooLong (digits : Nat)

/-- Digits with an optional fraction and exponent, as digits and a power of ten. -/
def decimal? (cs : List Char) : Option (Nat × Int) :=
  let whole := cs.takeWhile Char.isDigit
  let rest := cs.dropWhile Char.isDigit
  let (fraction, rest) := match rest with
    | '.' :: r => (r.takeWhile Char.isDigit, r.dropWhile Char.isDigit)
    | r => ([], r)
  if whole.isEmpty && fraction.isEmpty then none
  else
    let digits := Digits.value (whole ++ fraction)
    let shift : Int := -(fraction.length : Int)
    match rest with
    | [] => some (digits, shift)
    | c :: r =>
      if c = 'e' ∨ c = 'E' then
        let (negative, ds) := takeSign r
        if ds.isEmpty || !ds.all Char.isDigit then none
        else
          let e : Int := Digits.value ds
          some (digits, shift + if negative then -e else e)
      else none

def float? (cs : List Char) : Option Float :=
  let (negative, body) := takeSign (trim cs)
  let word := String.ofList (body.map Char.toLower)
  if word = "inf" ∨ word = "infinity" then some (Binary64.infinity negative)
  else if word = "nan" then some Binary64.nan
  else
    (ungroup? Char.isDigit body).bind fun cs =>
      (decimal? cs).map fun (digits, exponent) => Binary64.ofDecimal negative digits exponent

end LiveConsole.Numeral
