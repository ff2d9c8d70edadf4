import LeasePapers.Number.Digits
import LeasePapers.Number.Power

/-! Amounts: exact decimals with a sign, a mantissa below `2 ^ 96` and at most twenty-eight places.
Trailing zeros are kept, so that `1.50` and `1.5` are different amounts of one value.
-/

namespace LeasePapers

/-- The least mantissa that is too large. -/
def mantissaBound : Nat := Number.twoTo 96

/-- The greatest number of places. -/
def greatestScale : Nat := 28

/-- The amount `mantissa / 10 ^ scale`, negative or not. Zero has no sign. -/
structure Amount where
  negative : Bool
  mantissa : Nat
  scale : Nat
  mantissa_lt : mantissa < mantissaBound
  scale_le : scale ≤ greatestScale
  unsigned_of_zero : mantissa = 0 → negative = false
  deriving DecidableEq, Repr

namespace Amount

/-- The amount of those parts, if it fits. -/
def ofParts? (negative : Bool) (mantissa scale : Nat) : Option Amount :=
  if h : mantissa < mantissaBound ∧ scale ≤ greatestScale then
    some ⟨negative && mantissa != 0, mantissa, scale, h.1, h.2, by simp +contextual⟩
  else none

end Amount

/-- The quotient by a power of ten, rounded half up. -/
def dropPlaces (mantissa places : Nat) : Nat :=
  (2 * mantissa + Number.tenTo places) / (2 * Number.tenTo places)

namespace Amount

/-- Mantissa and scale of the amount without its sign, rounded to at most so many places, a half
away from zero. An amount with few enough places keeps them. -/
def rounded (amount : Amount) (places : Nat) : Nat × Nat :=
  if amount.scale ≤ places then (amount.mantissa, amount.scale)
  else (dropPlaces amount.mantissa (amount.scale - places), places)

end Amount

/-- The digits before the point of a decimal. -/
def wholeDigits (mantissa scale : Nat) : Text :=
  Number.digits (mantissa / Number.tenTo scale)

/-- The digits after the point of a decimal, one for each place. -/
def placeDigits (mantissa scale : Nat) : Text :=
  if scale = 0 then [] else Number.paddedDigits scale (mantissa % Number.tenTo scale)

end LeasePapers
