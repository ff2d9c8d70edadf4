import LeasePapers.Text.Basic

/-! Whole numbers in decimal digits, read and written.
-/

namespace LeasePapers.Number

/-- The decimal digits of a number, without leading zeros. -/
def digits (n : Nat) : Text :=
  Nat.toDigits 10 n

/-- The number that a run of ASCII digits spells; leading zeros do not matter. -/
def ofDigits (text : Text) : Nat :=
  Nat.ofDigitChars 10 text 0

/-- The digits of a number, filled up with zeros on the left to a least width. -/
def paddedDigits (width n : Nat) : Text :=
  List.replicate (width - (digits n).length) '0' ++ digits n

/-- A whole number with a minus sign if it is negative. -/
def signedDigits (n : Int) : Text :=
  if n < 0 then '-' :: digits n.natAbs else digits n.natAbs

/-- The decimal digits of a number are read as that number. -/
theorem ofDigits_digits (n : Nat) : ofDigits (digits n) = n :=
  Nat.ofDigitChars_toDigits (by decide) (by decide)

end LeasePapers.Number
