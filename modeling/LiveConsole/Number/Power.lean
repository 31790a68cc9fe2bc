/-!
# Powers of two and ten

The scales on which doubles and numerals are measured.
-/

set_option autoImplicit false

namespace LiveConsole

def twoTo (n : Nat) : Nat :=
  Nat.pow 2 n

def tenTo (n : Nat) : Nat :=
  Nat.pow 10 n

@[simp] theorem tenTo_zero : tenTo 0 = 1 := rfl

theorem tenTo_succ (n : Nat) : tenTo (n + 1) = tenTo n * 10 := rfl

end LiveConsole
