import LeasePapers.Text.Basic

/-! Powers of the two bases that numbers are written and held in.
-/

namespace LeasePapers.Number

/-- A power of ten, the value of a decimal place. -/
def tenTo (n : Nat) : Nat := Nat.pow 10 n

/-- A power of two, the value of a binary place. -/
def twoTo (n : Nat) : Nat := Nat.pow 2 n

/-- The power of ten with exponent zero. -/
theorem tenTo_zero : tenTo 0 = 1 := rfl

/-- The next power of ten is ten times the last. -/
theorem tenTo_succ (n : Nat) : tenTo (n + 1) = tenTo n * 10 := rfl

/-- The power of two with exponent zero. -/
theorem twoTo_zero : twoTo 0 = 1 := rfl

/-- The next power of two is twice the last. -/
theorem twoTo_succ (n : Nat) : twoTo (n + 1) = twoTo n * 2 := rfl

/-- Powers of ten are positive, by induction on the exponent. -/
theorem tenTo_pos (n : Nat) : 0 < tenTo n := by
  induction n with
  | zero => decide
  | succ n ih => simpa [tenTo_succ] using ih

/-- Powers of two are positive, by induction on the exponent. -/
theorem twoTo_pos (n : Nat) : 0 < twoTo n := by
  induction n with
  | zero => decide
  | succ n ih => simpa [twoTo_succ] using ih

end LeasePapers.Number
