import LiveConsole.Number.Power

/-!
# Bits of integers

A negative integer has infinitely many leading ones.
-/

set_option autoImplicit false

namespace LiveConsole.Bits

def and : Int → Int → Int
  | .ofNat m, .ofNat n => Int.ofNat (m &&& n)
  | .ofNat m, .negSucc n => Int.ofNat (m - (m &&& n))
  | .negSucc m, .ofNat n => Int.ofNat (n - (n &&& m))
  | .negSucc m, .negSucc n => .negSucc (m ||| n)

def complement (n : Int) : Int := -n - 1

def or (m n : Int) : Int :=
  complement (and (complement m) (complement n))

def xor : Int → Int → Int
  | .ofNat m, .ofNat n => Int.ofNat (m ^^^ n)
  | .ofNat m, .negSucc n => .negSucc (m ^^^ n)
  | .negSucc m, .ofNat n => .negSucc (m ^^^ n)
  | .negSucc m, .negSucc n => Int.ofNat (m ^^^ n)

def shiftLeft (n : Int) (count : Nat) : Int :=
  n * twoTo count

/-- Rounds down. A count beyond the length leaves only the sign. -/
def shiftRight (n : Int) (count : Nat) : Int :=
  if count > n.natAbs.log2 + 1 then (if n < 0 then -1 else 0)
  else Int.fdiv n (twoTo count)

end LiveConsole.Bits
