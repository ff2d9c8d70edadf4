import Mathlib.Algebra.Order.Round
import Mathlib.Data.Rat.Floor
import Mathlib.Data.Sign.Basic
import Mathlib.Tactic.FieldSimp
import Mathlib.Tactic.Positivity
import Mathlib.Tactic.Ring
import LeasePapers.Amount.Basic

/-! The values of amounts. An amount has a rational value, and dropping places rounds this value to
a multiple of the last place that is kept, a half away from zero.
-/

namespace LeasePapers

/-- The number `mantissa / 10 ^ scale`, with a sign. -/
def signedValue (negative : Bool) (mantissa scale : Nat) : ℚ :=
  if negative then -(mantissa / 10 ^ scale) else mantissa / 10 ^ scale

/-- A number rounded to so many places, a half away from zero. -/
def roundAway (places : Nat) (x : ℚ) : ℚ :=
  SignType.sign x * round (|x| * 10 ^ places) / 10 ^ places

namespace Amount

/-- The value of an amount. -/
def value (amount : Amount) : ℚ :=
  signedValue amount.negative amount.mantissa amount.scale

end Amount

/-- The powers of ten as rational numbers, by induction on the exponent. -/
theorem cast_tenTo (n : Nat) : (Number.tenTo n : ℚ) = 10 ^ n := by
  induction n with
  | zero => simp [Number.tenTo_zero]
  | succ n ih => rw [Number.tenTo_succ, pow_succ, Nat.cast_mul, ih, Nat.cast_ofNat]

/-- Dropping places rounds a half up. -/
theorem dropPlaces_eq_round (mantissa places : Nat)
    : (dropPlaces mantissa places : ℤ) = round ((mantissa : ℚ) / 10 ^ places) := by
  have hhalf : ((2 * mantissa + Number.tenTo places : Nat) : ℚ) / (2 * Number.tenTo places : Nat)
      = (mantissa : ℚ) / 10 ^ places + 1 / 2 := by
    push_cast [cast_tenTo]
    field_simp
  rw [round_eq, ← hhalf, Rat.floor_natCast_div_natCast, dropPlaces, Int.natCast_div]

/-- Zero has the same value with a sign and without. -/
theorem signedValue_unsignedZero (negative : Bool) (mantissa scale : Nat)
    : signedValue (negative && mantissa != 0) mantissa scale
      = signedValue negative mantissa scale := by
  by_cases hzero : mantissa = 0
  · simp [signedValue, hzero]
  · have hsome : (mantissa != 0) = true := by simpa using hzero
    rw [hsome, Bool.and_true]

/-- A value is below zero if it has the sign and is not zero. -/
theorem signedValue_neg_iff {negative : Bool} {mantissa scale : Nat}
    : signedValue negative mantissa scale < 0 ↔ negative = true ∧ mantissa ≠ 0 := by
  have hleast : (0 : ℚ) ≤ mantissa / 10 ^ scale := by positivity
  cases negative with
  | false => simpa [signedValue] using hleast
  | true =>
      obtain hzero | hpos := Nat.eq_zero_or_pos mantissa
      · simp [signedValue, hzero]
      · have hmore : (0 : ℚ) < mantissa / 10 ^ scale := by positivity
        simpa [signedValue, Nat.ne_of_gt hpos] using hmore

namespace Amount

variable (amount : Amount) (places : Nat)

/-- The amount without its sign is rounded as its value is. -/
theorem rounded_eq_round
    : ((amount.rounded places).1 : ℚ) / 10 ^ (amount.rounded places).2
      = round ((amount.mantissa : ℚ) / 10 ^ amount.scale * 10 ^ places) / 10 ^ places := by
  rw [rounded]
  split
  · rename_i hfew
    obtain ⟨more, rfl⟩ := Nat.exists_eq_add_of_le hfew
    have hwhole : (amount.mantissa : ℚ) / 10 ^ amount.scale * 10 ^ (amount.scale + more)
        = (amount.mantissa * 10 ^ more : Nat) := by
      push_cast [pow_add]
      field_simp
    rw [hwhole, round_natCast]
    push_cast [pow_add]
    field_simp
  · rename_i hmany
    obtain ⟨dropped, hscale⟩ := Nat.exists_eq_add_of_le (Nat.le_of_not_le hmany)
    have hkept : (amount.mantissa : ℚ) / 10 ^ amount.scale * 10 ^ places
        = amount.mantissa / 10 ^ dropped := by
      rw [hscale, pow_add]
      field_simp
    rw [hkept, ← dropPlaces_eq_round, Int.cast_natCast, hscale, Nat.add_sub_cancel_left]

/-- Rounding a value is rounding its mantissa. -/
theorem roundAway_value
    : roundAway places amount.value
      = signedValue amount.negative (amount.rounded places).1 (amount.rounded places).2 := by
  have hrounded := amount.rounded_eq_round places
  obtain hzero | hpos := Nat.eq_zero_or_pos amount.mantissa
  · have hsize : ((amount.rounded places).1 : ℚ) / 10 ^ (amount.rounded places).2 = 0 := by
      rw [hrounded, hzero]
      simp
    have hvalue : amount.value = 0 := by simp [value, signedValue, hzero]
    simp [hvalue, roundAway, signedValue, hsize]
  · have hsize : (0 : ℚ) < amount.mantissa / 10 ^ amount.scale := by positivity
    rw [roundAway, value, signedValue, signedValue, hrounded]
    split
    · rw [abs_neg, abs_of_pos hsize, sign_neg (neg_lt_zero.mpr hsize)]
      simp [neg_div]
    · rw [abs_of_pos hsize, sign_pos hsize]
      simp

end Amount

end LeasePapers
