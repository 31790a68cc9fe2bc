import LiveConsole.Number.Power

/-!
# Double-precision numbers as exact values

A finite double is `± significand · 2 ^ exponent`. `Binary64.ofRatio` rounds a quotient of
naturals to the nearest double, a tie going to the even significand.
-/

set_option autoImplicit false

namespace LiveConsole.Binary64

inductive Parts where
  | nan
  | infinite (negative : Bool)
  | finite (negative : Bool) (significand : Nat) (exponent : Int)

def parts (x : Float) : Parts :=
  let bits : Nat := x.toBits.toNat
  let negative := bits / twoTo 63 = 1
  let biased : Nat := bits / twoTo 52 % 2048
  let fraction : Nat := bits % twoTo 52
  if biased = 2047 then
    if fraction = 0 then .infinite negative else .nan
  else if biased = 0 then .finite negative fraction (-1074)
  else .finite negative (twoTo 52 + fraction) (biased - 1075)

def infinity (negative : Bool) : Float :=
  Float.ofBits (if negative then 0xFFF0000000000000 else 0x7FF0000000000000)

def nan : Float := Float.ofBits 0x7FF8000000000000

def zero (negative : Bool) : Float :=
  Float.ofBits (if negative then 0x8000000000000000 else 0)

/-- The quotient of naturals rounded to the nearest natural, a tie to the even one. -/
def roundDiv (num den : Nat) : Nat :=
  let q := num / den
  let r := num % den
  if 2 * r < den then q
  else if den < 2 * r then q + 1
  else q + q % 2

/-- `num · 2 ^ -e / den` as numerator and denominator. -/
def scale (num den : Nat) (e : Int) : Nat × Nat :=
  if e ≤ 0 then (num * twoTo e.natAbs, den) else (num, den * twoTo e.natAbs)

/-- The exponent at which the quotient has 53 significant bits, or the least exponent. -/
def exponentFor (num den : Nat) : Int :=
  let e : Int := num.log2 - den.log2 - 53
  let (n, d) := scale num den e
  max (if n / d ≥ twoTo 53 then e + 1 else e) (-1074)

/-- Nearest double to `± num / den`; `den` is not zero. -/
def ofRatio (negative : Bool) (num den : Nat) : Float :=
  if num = 0 then zero negative
  else
    let e := exponentFor num den
    let (n, d) := scale num den e
    let bits := (e + 1074).toNat * twoTo 52 + roundDiv n d
    if bits ≥ 2047 * twoTo 52 then infinity negative
    else Float.ofBits (UInt64.ofNat (bits + if negative then twoTo 63 else 0))

/-- Nearest double to `± digits · 10 ^ exponent`. -/
def ofDecimal (negative : Bool) (digits : Nat) (exponent : Int) : Float :=
  let size : Int := (Nat.log2 digits : Int) * 30103 / 100000 + exponent
  if digits = 0 ∨ size < -400 then zero negative
  else if size > 400 then infinity negative
  else if exponent ≥ 0 then ofRatio negative (digits * tenTo exponent.natAbs) 1
  else ofRatio negative digits (tenTo exponent.natAbs)

/-- The double of an integer; infinite when the integer is out of range. -/
def ofInt (n : Int) : Float :=
  ofRatio (n < 0) n.natAbs 1

def isNaN (x : Float) : Bool :=
  match parts x with
  | .nan => true
  | _ => false

/-- The integer part, toward zero, of a finite double. -/
def truncate? (x : Float) : Option Int :=
  match parts x with
  | .finite negative m e =>
    let n := if e ≥ 0 then m * twoTo e.natAbs else m / twoTo e.natAbs
    some (if negative then -(n : Int) else n)
  | _ => none

/-- Exact comparison with an integer; `none` for no number. -/
def compareInt (x : Float) (n : Int) : Option Ordering :=
  match parts x with
  | .nan => none
  | .infinite negative => some (if negative then .lt else .gt)
  | .finite negative m e =>
    let signed : Int := if negative then -(m : Int) else m
    some (if e ≥ 0 then compare (signed * twoTo e.natAbs) n
      else compare signed (n * twoTo e.natAbs))

/-- The remainder of a quotient truncated toward zero, with the sign of the dividend. -/
def remainder (x y : Float) : Float :=
  match parts x, parts y with
  | .finite negative m e, .finite _ k f =>
    if k = 0 then nan
    else
      let low := min e f
      let a := m * twoTo (e - low).natAbs
      let b := k * twoTo (f - low).natAbs
      let r := a % b
      if low ≥ 0 then ofRatio negative (r * twoTo low.natAbs) 1
      else ofRatio negative r (twoTo low.natAbs)
  | .finite .., .infinite _ => x
  | _, _ => nan

end LiveConsole.Binary64
