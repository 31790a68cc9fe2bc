import LiveConsole.Number.Bits
import LiveConsole.Object.Run

/-!
# Arithmetic

Operations on integers and doubles. An operation on two integers is exact; with a double on either
side both are taken as doubles. Every operation without a result names its fault.
-/

set_option autoImplicit false

namespace LiveConsole.Arithmetic

open Datum (Quantity)
open Script (BinaryOp)

def refuse {α : Type} (kind : ErrorKind) (message : Text) : Except Fault α :=
  .error (Fault.said kind message)

def divisionByZero {α : Type} (message : String) : Except Fault α :=
  refuse .zeroDivisionError message

/-- The double of an integer, which must be in range. -/
def toFloat (n : Int) : Except Fault Float :=
  let x := Binary64.ofInt n
  match Binary64.parts x with
  | .infinite _ => refuse .overflowError "int too large to convert to float"
  | _ => .ok x

def asFloat : Quantity → Except Fault Float
  | .int n => toFloat n
  | .float x => .ok x

/-- The nearest double to a quotient of integers. -/
def divideInts (m n : Int) : Except Fault Float :=
  if n = 0 then divisionByZero "division by zero"
  else
    let x := Binary64.ofRatio ((m < 0) != (n < 0) && m != 0) m.natAbs n.natAbs
    match Binary64.parts x with
    | .infinite _ => refuse .overflowError "integer division result too large for a float"
    | _ => .ok x

def isFinite (x : Float) : Bool :=
  match Binary64.parts x with
  | .finite .. => true
  | _ => false

def isNegative (x : Float) : Bool :=
  match Binary64.parts x with
  | .finite negative .. | .infinite negative => negative
  | .nan => false

/-- The size of one double with the sign of another. -/
def withSign (size sign : Float) : Float :=
  if isNegative size = isNegative sign then size else -size

/-- The remainder with the sign of the divisor. -/
def moduloFloats (x y : Float) : Float :=
  let r := Binary64.remainder x y
  if r == 0.0 then withSign 0.0 y
  else if (y < 0.0) != (r < 0.0) then r + y
  else r

/-- The quotient rounded down. -/
def floorFloats (x y : Float) : Float :=
  let r := Binary64.remainder x y
  let quotient := (x - r) / y
  let quotient := if r != 0.0 && (y < 0.0) != (r < 0.0) then quotient - 1.0 else quotient
  if quotient == 0.0 then withSign 0.0 (x / y)
  else
    let low := quotient.floor
    if quotient - low > 0.5 then low + 1.0 else low

def powerFloats (x y : Float) : Except Fault Float :=
  if x == 0.0 && y < 0.0 then
    divisionByZero "0.0 cannot be raised to a negative power"
  else
    let r := x.pow y
    if isFinite x && isFinite y && !isFinite r then
      if Binary64.isNaN r then refuse .valueError "math domain error"
      else .error ⟨.overflowError, [.int 34, .text "Numerical result out of range"]⟩
    else .ok r

/-- The most bits that a result may have. -/
def bitLimit : Nat := twoTo 30

def powerInts (m n : Int) : Except Fault Quantity :=
  if n < 0 then do return .float (← powerFloats (← toFloat m) (← toFloat n))
  else if m.natAbs > 1 ∧ m.natAbs.log2 * n.natAbs > bitLimit then refuse .memoryError []
  else if m.natAbs ≤ 1 then .ok (.int (m.pow (if n = 0 then 0 else 2 - n.natAbs % 2)))
  else .ok (.int (m.pow n.natAbs))

def shiftLeft (m n : Int) : Except Fault Int :=
  if n < 0 then refuse .valueError "negative shift count"
  else if m = 0 then .ok 0
  else if n.natAbs > bitLimit then refuse .memoryError []
  else .ok (Bits.shiftLeft m n.natAbs)

def shiftRight (m n : Int) : Except Fault Int :=
  if n < 0 then refuse .valueError "negative shift count"
  else .ok (Bits.shiftRight m n.natAbs)

/-- An operation on two integers. -/
def ints (op : BinaryOp) (m n : Int) : Option (Except Fault Quantity) :=
  let int : Except Fault Int → Option (Except Fault Quantity) := fun r => some (r.map .int)
  match op with
  | .add => int (.ok (m + n))
  | .subtract => int (.ok (m - n))
  | .multiply => int (.ok (m * n))
  | .matrixMultiply => none
  | .divide => some ((divideInts m n).map .float)
  | .modulo => int (if n = 0 then divisionByZero "integer modulo by zero" else .ok (Int.fmod m n))
  | .floorDivide =>
    int (if n = 0 then divisionByZero "integer division or modulo by zero" else .ok (Int.fdiv m n))
  | .power => some (powerInts m n)
  | .shiftLeft => int (shiftLeft m n)
  | .shiftRight => int (shiftRight m n)
  | .bitAnd => int (.ok (Bits.and m n))
  | .bitOr => int (.ok (Bits.or m n))
  | .bitXor => int (.ok (Bits.xor m n))

/-- An operation on two doubles. -/
def floats (op : BinaryOp) (x y : Float) : Option (Except Fault Float) :=
  match op with
  | .add => some (.ok (x + y))
  | .subtract => some (.ok (x - y))
  | .multiply => some (.ok (x * y))
  | .divide => some (if y == 0.0 then divisionByZero "float division by zero" else .ok (x / y))
  | .modulo => some (if y == 0.0 then divisionByZero "float modulo" else .ok (moduloFloats x y))
  | .floorDivide =>
    some (if y == 0.0 then divisionByZero "float floor division by zero" else .ok (floorFloats x y))
  | .power => some (powerFloats x y)
  | _ => none

/-- An operation on two numbers, if there is one. -/
def operate (op : BinaryOp) (a b : Quantity) : Option (Except Fault Quantity) :=
  match a, b with
  | .int m, .int n => ints op m n
  | a, b =>
    match floats op 1.0 1.0 with
    | none => none
    | some _ =>
      some do
        let x ← asFloat a
        let y ← asFloat b
        match floats op x y with
        | some r => return .float (← r)
        | none => return .float x

end LiveConsole.Arithmetic
