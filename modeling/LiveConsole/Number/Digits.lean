import LiveConsole.Number.Power
import LiveConsole.Text.CodePoint

/-!
# Decimal numerals of integers

Numerals of more than `digitLimit` digits are neither read nor written.
-/

set_option autoImplicit false

namespace LiveConsole

/-- The most digits a decimal numeral may have. -/
def digitLimit : Nat := 4300

namespace Digits

/-- Whether an integer's numeral stays within the limit; the sign does not count. -/
def fits (n : Int) : Bool :=
  n.natAbs < tenTo digitLimit

@[simp] theorem fits_neg (n : Int) : fits (-n) = fits n := by
  simp [fits]

/-- The numeral of an integer, whatever its length. -/
def numeral (n : Int) : Text :=
  toString n

/-- A numeral that is too long to be written. -/
structure TooLong where
deriving DecidableEq

def TooLong.message : TooLong → Text
  | ⟨⟩ =>
    "Exceeds the limit (4300 digits) for integer string conversion; "
      ++ "use sys.set_int_max_str_digits() to increase the limit"

def write (n : Int) : Except TooLong Text :=
  if fits n then .ok (numeral n) else .error ⟨⟩

theorem write_eq_ok_iff {n : Int} {t : Text} :
    write n = .ok t ↔ fits n = true ∧ t = numeral n := by
  unfold write
  split
  · next h => simp [h, eq_comm]
  · next h => simp [h]

/-- The value of decimal digits, the most significant first. -/
def value (digits : List Char) : Nat :=
  digits.foldl (fun n c => n * 10 + (c.toNat - '0'.toNat)) 0

/-- What is said of a numeral of `count` digits that is too long to be read. -/
def unreadable (count : Nat) : Text :=
  "Exceeds the limit (4300 digits) for integer string conversion: value has "
    ++ (toString count : Text)
    ++ " digits; use sys.set_int_max_str_digits() to increase the limit"

end Digits

end LiveConsole
