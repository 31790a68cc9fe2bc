import LiveConsole.Number.Binary64
import LiveConsole.Text.CodePoint

/-!
# Shortest decimal form of a double

The digits written are the fewest that read back as the same double, and of those the nearest
to it. They are searched on one decimal grid after another, from coarse to fine: on a grid only
the two neighbours of the value can be the nearest point.
-/

set_option autoImplicit false

namespace LiveConsole.Shortest

/-- `digits · 10 ^ exponent`. -/
structure Decimal where
  digits : Nat
  exponent : Int
deriving DecidableEq

/-- The greatest `k` with `10 ^ k ≤ num / den`, for positive `num` and `den`. -/
def magnitude (num den : Nat) : Int :=
  if den ≤ num then ((Nat.toDigits 10 (num / den)).length : Int) - 1
  else
    let k := (Nat.toDigits 10 (den / num)).length
    if num * tenTo (k - 1) = den then 1 - (k : Int) else -(k : Int)

/-- The numbers that read as a double: around `center / unit`, from `below` to `above`,
the ends included or not. All four share the denominator `unit`. -/
structure Interval where
  center : Nat
  below : Nat
  above : Nat
  unit : Nat
  closed : Bool

/-- The interval of `m · 2 ^ e`. Under a power of two the doubles lie half as far apart. -/
def interval (m : Nat) (e : Int) : Interval :=
  let gap := if m = twoTo 52 ∧ e > -1074 then 1 else 2
  let up := if e ≥ 2 then twoTo (e - 2).natAbs else 1
  let unit := if e ≥ 2 then 1 else twoTo (2 - e).natAbs
  ⟨4 * m * up, (4 * m - gap) * up, (4 * m + 2) * up, unit, m % 2 = 0⟩

/-- Whether `d · 10 ^ p` reads as the double. -/
def Interval.reads (i : Interval) (d : Nat) (p : Int) : Bool :=
  let point := if p ≥ 0 then d * tenTo p.natAbs * i.unit else d * i.unit
  let grow := fun n => if p ≥ 0 then n else n * tenTo p.natAbs
  if i.closed then grow i.below ≤ point && point ≤ grow i.above
  else grow i.below < point && point < grow i.above

/-- The point of the grid `10 ^ p` nearest to the value among those that read as it. -/
def Interval.onGrid (i : Interval) (p : Int) : Option Nat :=
  let num := if p ≥ 0 then i.center else i.center * tenTo p.natAbs
  let den := if p ≥ 0 then i.unit * tenTo p.natAbs else i.unit
  let low := num / den
  let nearest := Binary64.roundDiv num den
  let other := if nearest = low then low + 1 else low
  if i.reads nearest p then some nearest
  else if i.reads other p then some other
  else none

/-- The first hit on grids of `count`, `count + 1`, … digits. -/
def Interval.search (i : Interval) (top : Int) (count : Nat) : (grids : Nat) → Decimal
  | 0 => ⟨0, 0⟩
  | grids + 1 =>
    let p := top - count + 1
    match i.onGrid p with
    | some d => ⟨d, p⟩
    | none => i.search top (count + 1) grids

/-- Removes the zeros at the end of the digits. -/
def Decimal.trim (d : Decimal) : (zeros : Nat) → Decimal
  | 0 => d
  | zeros + 1 =>
    if d.digits ≠ 0 ∧ d.digits % 10 = 0 then trim ⟨d.digits / 10, d.exponent + 1⟩ zeros else d

/-- The shortest decimal of `m · 2 ^ e`, for positive `m`. Seventeen digits always suffice. -/
def decimal (m : Nat) (e : Int) : Decimal :=
  let i := interval m e
  (i.search (magnitude i.center i.unit) 1 17).trim 17

/-- How a double is laid out: positional from `10 ^ lowest` up to below `10 ^ beyond`, else with
an exponent of at least `exponentDigits` digits. -/
structure Layout where
  lowest : Int
  beyond : Int
  exponentDigits : Nat
  infinity : String
  nan : String

/-- Positional from `0.0001` up to below `10 ^ 16`; `1e+16` and `1e-05` beyond. -/
def layout : Layout := ⟨-4, 16, 2, "inf", "nan"⟩

def padLeft (width : Nat) (digits : List Char) : List Char :=
  List.replicate (width - digits.length) '0' ++ digits

/-- The digits `ds` with the first at `10 ^ top`, in positional notation. -/
def positional (ds : List Char) (top : Int) : List Char :=
  if top < 0 then "0.".toList ++ List.replicate (top.natAbs - 1) '0' ++ ds
  else
    let whole := top.natAbs + 1
    if ds.length ≤ whole then ds ++ List.replicate (whole - ds.length) '0' ++ ".0".toList
    else ds.take whole ++ '.' :: ds.drop whole

def scientific (style : Layout) (ds : List Char) (top : Int) : List Char :=
  let exponent := padLeft style.exponentDigits (Nat.toDigits 10 top.natAbs)
  let mantissa := match ds with
    | d :: r :: rest => d :: '.' :: r :: rest
    | _ => ds
  mantissa ++ 'e' :: (if top < 0 then '-' else '+') :: exponent

def Decimal.layOut (style : Layout) (d : Decimal) : List Char :=
  let ds := Nat.toDigits 10 d.digits
  let top := d.exponent + ds.length - 1
  if style.lowest ≤ top ∧ top < style.beyond then positional ds top else scientific style ds top

def write (style : Layout) (x : Float) : Text :=
  match Binary64.parts x with
  | .nan => style.nan
  | .infinite negative => (if negative then "-" else "") ++ (style.infinity : Text)
  | .finite negative m e =>
    let body := if m = 0 then "0.0".toList else (decimal m e).layOut style
    Text.ofChars (if negative then '-' :: body else body)

end LiveConsole.Shortest
