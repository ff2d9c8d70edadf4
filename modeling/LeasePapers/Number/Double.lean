import LeasePapers.Number.Digits
import LeasePapers.Number.Power

/-! Magnitudes of the 64-bit binary floating-point format: a whole number of at most 53 bits times a
power of two from -1074 to 971. An exact quotient is rounded to the nearest of them, to the one
with an even significand if two are equally near; a quotient that would need a larger exponent has
no magnitude.
-/

namespace LeasePapers.Number

/-- The magnitude `significand · 2 ^ exponent`. -/
structure Double where
  significand : Nat
  exponent : Int
  deriving DecidableEq, Repr

/-- The whole number nearest to a quotient, the even one of two equally near. -/
def roundHalfEven (numerator denominator : Nat) : Nat :=
  let whole := numerator / denominator
  let rest := numerator % denominator
  if 2 * rest < denominator then whole
  else if denominator < 2 * rest then whole + 1
  else whole + whole % 2

/-- Numerator and denominator of a quotient divided by a power of two. -/
def scaleDown (numerator denominator : Nat) (exponent : Int) : Nat × Nat :=
  if 0 ≤ exponent then (numerator, denominator * twoTo exponent.toNat)
  else (numerator * twoTo (-exponent).toNat, denominator)

/-- The greatest power of two that is at most a positive quotient. -/
def floorLog2 (numerator denominator : Nat) : Int :=
  let guess : Int := (Nat.log2 numerator : Int) - Nat.log2 denominator
  let scaled := scaleDown numerator denominator guess
  if scaled.2 ≤ scaled.1 then guess else guess - 1

namespace Double

/-- The magnitude zero. -/
def zero : Double := ⟨0, -1074⟩

/-- The magnitude nearest to a quotient. -/
def ofQuotient? (numerator denominator : Nat) : Option Double :=
  if numerator = 0 then some zero
  else
    let exponent := max (floorLog2 numerator denominator - 52) (-1074)
    let scaled := scaleDown numerator denominator exponent
    let significand := roundHalfEven scaled.1 scaled.2
    let rounded : Double :=
      if significand = twoTo 53 then ⟨twoTo 52, exponent + 1⟩ else ⟨significand, exponent⟩
    if rounded.exponent ≤ 971 then some rounded else none

/-- The magnitude as an exact quotient. -/
def quotient (x : Double) : Nat × Nat :=
  scaleDown x.significand 1 (-x.exponent)

/-- The magnitude nearest to a power of ten. -/
def powerOfTen (exponent : Nat) : Double :=
  (ofQuotient? (tenTo exponent) 1).getD zero

/-- The rounded product of two magnitudes. -/
def mul? (x y : Double) : Option Double :=
  ofQuotient? (x.quotient.1 * y.quotient.1) (x.quotient.2 * y.quotient.2)

/-- The rounded quotient of two magnitudes. -/
def div? (x y : Double) : Option Double :=
  ofQuotient? (x.quotient.1 * y.quotient.2) (x.quotient.2 * y.quotient.1)

/-- The greatest power of ten that is a magnitude. -/
def greatestPower : Nat := 308

/-- Divides by the greatest power of ten so many times; zero stays zero. -/
def divGreatest? : Nat → Double → Option Double
  | 0, x => some x
  | times + 1, x =>
      if x.significand = 0 then some x
      else (x.div? (powerOfTen greatestPower)).bind (divGreatest? times)

/-- A whole number times a power of ten. The number is rounded first, and so is the product or the
quotient with the power; a small power is divided by in steps, each of them rounded. -/
def ofScientific? (whole : Nat) (exponent : Int) : Option Double := do
  let x ← ofQuotient? whole 1
  if 0 ≤ exponent then
    if exponent ≤ greatestPower then x.mul? (powerOfTen exponent.toNat)
    else if x.significand = 0 then some x
    else none
  else
    let places := (-exponent).toNat
    let steps := (places - 1) / greatestPower
    let x ← divGreatest? steps x
    if x.significand = 0 then some x
    else x.div? (powerOfTen (places - steps * greatestPower))

end Double

end LeasePapers.Number
