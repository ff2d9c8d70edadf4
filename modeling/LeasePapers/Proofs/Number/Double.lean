import Mathlib.Algebra.Order.Field.Power
import Mathlib.Data.Rat.Cast.Order
import Mathlib.Tactic.FieldSimp
import Mathlib.Tactic.Linarith
import Mathlib.Tactic.NormNum
import Mathlib.Tactic.Positivity
import Mathlib.Tactic.Ring
import LeasePapers.Number.Double

/-! Magnitudes as rational numbers. A quotient from one upwards is scaled so that it lies between
`2 ^ 52` and `2 ^ 53` and rounded to a whole number there, so it changes by one part in `2 ^ 53` at
most. A decimal is read with three roundings: its digits, the power of ten and the product.
-/

namespace LeasePapers.Number

/-- The powers of two are those of the library. -/
theorem twoTo_eq (n : Nat) : twoTo n = 2 ^ n :=
  rfl

/-- The powers of ten are those of the library. -/
theorem tenTo_eq (n : Nat) : tenTo n = 10 ^ n :=
  rfl

/-- Greater exponents give greater powers of ten. -/
theorem tenTo_mono {m n : Nat} (h : m ≤ n) : tenTo m ≤ tenTo n :=
  Nat.pow_le_pow_right (by decide) h

/-- The rational number that a quotient stands for. -/
def ratio (quotient : Nat × Nat) : ℚ :=
  quotient.1 / quotient.2

variable {numerator denominator : Nat}

-----------------------------------------------------------------------------------------
-- Nearness
-----------------------------------------------------------------------------------------

/-- Two numbers are no further apart than so many roundings to 53 bits can take them. -/
structure Within (roundings : Nat) (first second : ℚ) : Prop where
  first_le : first ≤ (1 + 1 / 2 ^ 53) ^ roundings * second
  second_le : second ≤ (1 + 1 / 2 ^ 53) ^ roundings * first

section

variable {m n : Nat} {a b c d : ℚ}

/-- Numbers that are near for their size are within one rounding of each other. -/
theorem within_one (gap : ℚ) (hab : a ≤ b + gap) (hba : b ≤ a + gap) (ha : 2 ^ 53 * gap ≤ a)
    (hb : 2 ^ 53 * gap ≤ b)
    : Within 1 a b := by
  constructor <;> linarith

/-- Roundings add up along a chain. -/
theorem Within.trans (h : Within m a b) (h' : Within n b c) : Within (m + n) a c := by
  constructor
  · rw [pow_add, mul_assoc]
    exact h.first_le.trans (mul_le_mul_of_nonneg_left h'.first_le (by positivity))
  · rw [Nat.add_comm m n, pow_add, mul_assoc]
    exact h'.second_le.trans (mul_le_mul_of_nonneg_left h.second_le (by positivity))

/-- Roundings add up in a product. -/
theorem Within.mul (h : Within m a b) (h' : Within n c d) (ha : 0 ≤ a) (hb : 0 ≤ b) (hc : 0 ≤ c)
    (hd : 0 ≤ d)
    : Within (m + n) (a * c) (b * d) := by
  constructor
  · rw [pow_add, mul_mul_mul_comm]
    exact mul_le_mul h.first_le h'.first_le hc (mul_nonneg (by positivity) hb)
  · rw [pow_add, mul_mul_mul_comm]
    exact mul_le_mul h.second_le h'.second_le hd (mul_nonneg (by positivity) ha)

/-- A number within roundings of one that is not negative is not negative. -/
theorem Within.second_nonneg (h : Within n a b) (ha : 0 ≤ a) : 0 ≤ b := by
  have hproduct : 0 ≤ (1 + 1 / 2 ^ 53 : ℚ) ^ n * b := ha.trans h.first_le
  exact nonneg_of_mul_nonneg_right hproduct (by positivity)

/-- A few roundings change a number by one part in `2 ^ 50` at most. -/
theorem Within.abs_sub_le (h : Within n a b) (hn : n ≤ 6) (ha : 0 ≤ a) : |b - a| ≤ a / 2 ^ 50 := by
  have hpow : (1 + 1 / 2 ^ 53 : ℚ) ^ n ≤ (1 + 1 / 2 ^ 53) ^ 6 :=
    pow_le_pow_right₀ (by norm_num) hn
  have hlow := h.first_le.trans (mul_le_mul_of_nonneg_right hpow (h.second_nonneg ha))
  have hhigh := h.second_le.trans (mul_le_mul_of_nonneg_right hpow ha)
  norm_num at hlow hhigh ⊢
  rw [abs_le]
  constructor <;> linarith

end

-----------------------------------------------------------------------------------------
-- Scaling
-----------------------------------------------------------------------------------------

/-- Scaling a quotient down divides its value by a power of two. -/
theorem ratio_scaleDown (numerator denominator : Nat) (exponent : Int)
    : ratio (scaleDown numerator denominator exponent)
      = numerator / denominator / 2 ^ exponent := by
  rw [scaleDown]
  split
  · rename_i hexponent
    obtain ⟨n, rfl⟩ := Int.eq_ofNat_of_zero_le hexponent
    simp [ratio, twoTo_eq, div_div]
  · rename_i hexponent
    obtain ⟨n, rfl⟩ := Int.exists_eq_neg_ofNat (by omega : exponent ≤ 0)
    simp [ratio, twoTo_eq, mul_div_right_comm]

/-- A quotient that is scaled down keeps a positive denominator. -/
theorem scaleDown_pos (numerator : Nat) (hpos : 0 < denominator) (exponent : Int)
    : 0 < (scaleDown numerator denominator exponent).2 := by
  rw [scaleDown]
  split
  · exact Nat.mul_pos hpos (twoTo_pos _)
  · exact hpos

/-- A quotient that is scaled down keeps a positive numerator. -/
theorem scaleDown_fst_pos (hpos : 0 < numerator) (exponent : Int)
    : 0 < (scaleDown numerator denominator exponent).1 := by
  rw [scaleDown]
  split
  · exact hpos
  · exact Nat.mul_pos hpos (twoTo_pos _)

/-- A quotient is at least one if its numerator is at least its denominator. -/
theorem one_le_ratio_iff {quotient : Nat × Nat} (hpos : 0 < quotient.2)
    : 1 ≤ ratio quotient ↔ quotient.2 ≤ quotient.1 := by
  rw [ratio, le_div_iff₀ (by exact_mod_cast hpos), one_mul, Nat.cast_le]

/-- A positive quotient lies between two neighbouring powers of two. -/
theorem floorLog2_spec (hn : 0 < numerator) (hd : 0 < denominator)
    : (2 : ℚ) ^ floorLog2 numerator denominator ≤ numerator / denominator
      ∧ (numerator : ℚ) / denominator < 2 ^ (floorLog2 numerator denominator + 1) := by
  have hd' : (0 : ℚ) < denominator := by exact_mod_cast hd
  have hnlow : (2 : ℚ) ^ (Nat.log2 numerator : ℤ) ≤ numerator := by
    exact_mod_cast Nat.log2_self_le hn.ne'
  have hnhigh : (numerator : ℚ) < 2 ^ ((Nat.log2 numerator : ℤ) + 1) := by
    exact_mod_cast Nat.lt_log2_self
  have hdlow : (2 : ℚ) ^ (Nat.log2 denominator : ℤ) ≤ denominator := by
    exact_mod_cast Nat.log2_self_le hd.ne'
  have hdhigh : (denominator : ℚ) < 2 ^ ((Nat.log2 denominator : ℤ) + 1) := by
    exact_mod_cast Nat.lt_log2_self
  -- The difference of the logarithms is right or one too great.
  have hbelow : (2 : ℚ) ^ ((Nat.log2 numerator : ℤ) - Nat.log2 denominator - 1)
      ≤ numerator / denominator := by
    rw [le_div_iff₀ hd']
    calc (2 : ℚ) ^ ((Nat.log2 numerator : ℤ) - Nat.log2 denominator - 1) * denominator
        ≤ 2 ^ ((Nat.log2 numerator : ℤ) - Nat.log2 denominator - 1)
            * 2 ^ ((Nat.log2 denominator : ℤ) + 1) := by gcongr
      _ = 2 ^ (Nat.log2 numerator : ℤ) := by
          rw [← zpow_add₀ (by norm_num)]
          congr 1
          ring
      _ ≤ numerator := hnlow
  have habove : (numerator : ℚ) / denominator
      < 2 ^ ((Nat.log2 numerator : ℤ) - Nat.log2 denominator + 1) := by
    rw [div_lt_iff₀ hd']
    calc (numerator : ℚ) < 2 ^ ((Nat.log2 numerator : ℤ) + 1) := hnhigh
      _ = 2 ^ ((Nat.log2 numerator : ℤ) - Nat.log2 denominator + 1)
            * 2 ^ (Nat.log2 denominator : ℤ) := by
          rw [← zpow_add₀ (by norm_num)]
          congr 1
          ring
      _ ≤ 2 ^ ((Nat.log2 numerator : ℤ) - Nat.log2 denominator + 1) * denominator := by gcongr
  have hguess := one_le_ratio_iff (scaleDown_pos numerator hd
    ((Nat.log2 numerator : ℤ) - Nat.log2 denominator))
  rw [ratio_scaleDown, le_div_iff₀ (by positivity), one_mul] at hguess
  rw [floorLog2]
  split
  · rename_i hle
    exact ⟨hguess.mpr hle, habove⟩
  · rename_i hlt
    rw [sub_add_cancel]
    exact ⟨hbelow, lt_of_not_ge (fun h => hlt (hguess.mp h))⟩

-----------------------------------------------------------------------------------------
-- Rounding
-----------------------------------------------------------------------------------------

/-- Rounding a quotient gives no less than its whole part. -/
theorem div_le_roundHalfEven (numerator denominator : Nat)
    : numerator / denominator ≤ roundHalfEven numerator denominator := by
  rw [roundHalfEven]
  split
  · exact Nat.le_refl _
  · split <;> omega

/-- Rounding a quotient gives at most one more than its whole part. -/
theorem roundHalfEven_le (numerator denominator : Nat)
    : roundHalfEven numerator denominator ≤ numerator / denominator + 1 := by
  rw [roundHalfEven]
  split
  · omega
  · split <;> omega

/-- A quotient is rounded by at most one half. -/
theorem roundHalfEven_near (hd : 0 < denominator) (numerator : Nat)
    : ratio (numerator, denominator) ≤ roundHalfEven numerator denominator + 1 / 2
      ∧ roundHalfEven numerator denominator ≤ ratio (numerator, denominator) + 1 / 2 := by
  have hd' : (0 : ℚ) < denominator := by exact_mod_cast hd
  have hsplit := Nat.div_add_mod numerator denominator
  have hrest := Nat.mod_lt numerator hd
  have hnear : 2 * numerator ≤ 2 * (denominator * roundHalfEven numerator denominator) + denominator
      ∧ 2 * (denominator * roundHalfEven numerator denominator) ≤ 2 * numerator + denominator := by
    simp only [roundHalfEven]
    split
    · omega
    · split
      · rw [Nat.mul_add, Nat.mul_one]
        omega
      · rcases Nat.mod_two_eq_zero_or_one (numerator / denominator) with heven | hodd
        · rw [heven, Nat.add_zero]
          omega
        · rw [hodd, Nat.mul_add, Nat.mul_one]
          omega
  obtain ⟨hlow, hhigh⟩ := hnear
  have hlow' : (2 : ℚ) * numerator
      ≤ 2 * (denominator * roundHalfEven numerator denominator) + denominator := by
    exact_mod_cast hlow
  have hhigh' : (2 : ℚ) * (denominator * roundHalfEven numerator denominator)
      ≤ 2 * numerator + denominator := by
    exact_mod_cast hhigh
  have hratio : ratio (numerator, denominator) * denominator = numerator :=
    div_mul_cancel₀ _ hd'.ne'
  constructor
  · refine le_of_mul_le_mul_right ?_ hd'
    linarith
  · refine le_of_mul_le_mul_right ?_ hd'
    linarith

/-- The exponent at which a quotient is rounded to a whole number. -/
def roundingExponent (numerator denominator : Nat) : Int :=
  max (floorLog2 numerator denominator - 52) (-1074)

/-- The whole number that a quotient is rounded to at its exponent. -/
def roundedQuotient (numerator denominator : Nat) : Nat :=
  let scaled := scaleDown numerator denominator (roundingExponent numerator denominator)
  roundHalfEven scaled.1 scaled.2

/-- A rounded quotient has room in the significand, or is the next power of two. -/
theorem roundedQuotient_le (hn : 0 < numerator) (hd : 0 < denominator)
    : roundedQuotient numerator denominator ≤ twoTo 53 := by
  have hscaled := ratio_scaleDown numerator denominator (roundingExponent numerator denominator)
  have hpos := scaleDown_pos numerator hd (roundingExponent numerator denominator)
  have hratio : (numerator : ℚ) / denominator / 2 ^ roundingExponent numerator denominator
      < 2 ^ (53 : ℤ) := by
    rw [div_lt_iff₀ (by positivity), ← zpow_add₀ (by norm_num)]
    refine (floorLog2_spec hn hd).2.trans_le (zpow_le_zpow_right₀ (by norm_num) ?_)
    rw [roundingExponent]
    omega
  rw [← hscaled, ratio, div_lt_iff₀ (by exact_mod_cast hpos)] at hratio
  have hbelow := Nat.div_lt_of_lt_mul (by rw [Nat.mul_comm]; exact_mod_cast hratio)
  exact (roundHalfEven_le _ _).trans hbelow

/-- The exponent of a quotient that is at least one is not negative. -/
theorem floorLog2_nonneg (hd : 0 < denominator) (h : denominator ≤ numerator)
    : 0 ≤ floorLog2 numerator denominator := by
  have hone : (1 : ℚ) ≤ numerator / denominator := by
    rw [le_div_iff₀ (by exact_mod_cast hd), one_mul]
    exact_mod_cast h
  have hpower := hone.trans_lt (floorLog2_spec (hd.trans_le h) hd).2
  have hexponent := (one_lt_zpow_iff_right₀ (by norm_num)).mp hpower
  omega

/-- A quotient that is at least one is rounded as a normal number. -/
theorem roundingExponent_eq (hd : 0 < denominator) (h : denominator ≤ numerator)
    : roundingExponent numerator denominator = floorLog2 numerator denominator - 52 := by
  have hnonneg := floorLog2_nonneg hd h
  rw [roundingExponent]
  omega

/-- A quotient that is at least one fills the significand. -/
theorem le_roundedQuotient (hd : 0 < denominator) (h : denominator ≤ numerator)
    : twoTo 52 ≤ roundedQuotient numerator denominator := by
  have hscaled := ratio_scaleDown numerator denominator (roundingExponent numerator denominator)
  have hpos := scaleDown_pos numerator hd (roundingExponent numerator denominator)
  have hratio : (2 : ℚ) ^ (52 : ℤ)
      ≤ numerator / denominator / 2 ^ roundingExponent numerator denominator := by
    rw [le_div_iff₀ (by positivity), ← zpow_add₀ (by norm_num), roundingExponent_eq hd h,
      add_sub_cancel]
    exact (floorLog2_spec (hd.trans_le h) hd).1
  rw [← hscaled, ratio, le_div_iff₀ (by exact_mod_cast hpos)] at hratio
  have hbelow := (Nat.le_div_iff_mul_le hpos).mpr (by exact_mod_cast hratio)
  exact Nat.le_trans hbelow (div_le_roundHalfEven _ _)

namespace Double

variable {x y z : Double}

/-- The rational number that a magnitude is. -/
def value (x : Double) : ℚ :=
  x.significand * 2 ^ x.exponent

/-- What a positive quotient is rounded to. -/
theorem ofQuotient?_eq (hn : 0 < numerator)
    : ofQuotient? numerator denominator
      = let rounded : Double :=
          if roundedQuotient numerator denominator = twoTo 53 then
            ⟨twoTo 52, roundingExponent numerator denominator + 1⟩
          else ⟨roundedQuotient numerator denominator, roundingExponent numerator denominator⟩
        if rounded.exponent ≤ 971 then some rounded else none :=
  if_neg hn.ne'

/-- The magnitude of a quotient is the whole number that it is rounded to, at its exponent. -/
theorem value_of_ofQuotient? (hn : 0 < numerator) (h : ofQuotient? numerator denominator = some x)
    : x.value = roundedQuotient numerator denominator
        * 2 ^ roundingExponent numerator denominator := by
  simp only [ofQuotient?_eq hn, Option.ite_none_right_eq_some, Option.some.injEq] at h
  obtain ⟨-, rfl⟩ := h
  split
  · rename_i hlast
    rw [value, hlast, zpow_add_one₀ (by norm_num)]
    push_cast [twoTo_eq]
    ring
  · rfl

/-- A magnitude with a significand of 53 bits. -/
def Normal (x : Double) : Prop :=
  twoTo 52 ≤ x.significand ∧ x.significand < twoTo 53

/-- A normal number has a positive significand. -/
theorem Normal.pos (h : x.Normal) : 0 < x.significand :=
  (twoTo_pos 52).trans_le h.1

/-- A quotient that is at least one is rounded to a normal number. -/
theorem normal_of_ofQuotient? (hd : 0 < denominator) (hle : denominator ≤ numerator)
    (h : ofQuotient? numerator denominator = some x)
    : x.Normal := by
  have hn := hd.trans_le hle
  have hlow := le_roundedQuotient hd hle
  have hhigh := roundedQuotient_le hn hd
  simp only [ofQuotient?_eq hn, Option.ite_none_right_eq_some, Option.some.injEq] at h
  obtain ⟨-, rfl⟩ := h
  split
  · exact ⟨Nat.le_refl _, Nat.lt_add_of_pos_right (twoTo_pos 52)⟩
  · rename_i hother
    exact ⟨hlow, Nat.lt_of_le_of_ne hhigh hother⟩

/-- A quotient that is not too great has a magnitude. -/
theorem isSome_ofQuotient? (hd : 0 < denominator) (hle : denominator ≤ numerator)
    (hlt : (numerator : ℚ) / denominator < 2 ^ 1023)
    : (ofQuotient? numerator denominator).isSome = true := by
  have hn := hd.trans_le hle
  have hpower := (floorLog2_spec hn hd).1.trans_lt hlt
  rw [← zpow_natCast] at hpower
  have hexponent := (zpow_lt_zpow_iff_right₀ (by norm_num)).mp hpower
  have hrounding := roundingExponent_eq hd hle
  rw [ofQuotient?_eq hn]
  simp only [Option.isSome_ite]
  split
  · simp only
    omega
  · simp only
    omega

/-- A quotient from one upwards is rounded once. -/
theorem within_ofQuotient? (hd : 0 < denominator) (hle : denominator ≤ numerator)
    (h : ofQuotient? numerator denominator = some x)
    : Within 1 (numerator / denominator) x.value := by
  have hn := hd.trans_le hle
  have hunit : (0 : ℚ) < 2 ^ roundingExponent numerator denominator := by positivity
  obtain ⟨hlow, hhigh⟩ := roundHalfEven_near
    (scaleDown_pos numerator hd (roundingExponent numerator denominator))
    (scaleDown numerator denominator (roundingExponent numerator denominator)).1
  rw [Prod.mk.eta, ratio_scaleDown, ← roundedQuotient] at hlow hhigh
  rw [div_le_iff₀ hunit] at hlow
  rw [← sub_le_iff_le_add, le_div_iff₀ hunit] at hhigh
  have hquotient : (2 : ℚ) ^ 52 * 2 ^ roundingExponent numerator denominator
      ≤ numerator / denominator := by
    rw [← zpow_natCast, ← zpow_add₀ (by norm_num), roundingExponent_eq hd hle]
    simpa using (floorLog2_spec hn hd).1
  have hrounded : (2 : ℚ) ^ 52 ≤ roundedQuotient numerator denominator := by
    exact_mod_cast le_roundedQuotient hd hle
  rw [value_of_ofQuotient? hn h]
  exact within_one (2 ^ roundingExponent numerator denominator / 2) (by linarith) (by linarith)
    (by linarith) (by linarith [mul_le_mul_of_nonneg_right hrounded hunit.le])

-----------------------------------------------------------------------------------------
-- Products
-----------------------------------------------------------------------------------------

/-- The quotient of a double has its value. -/
theorem ratio_quotient (x : Double) : ratio x.quotient = x.value := by
  rw [quotient, ratio_scaleDown, zpow_neg, div_inv_eq_mul, Nat.cast_one, div_one, value]

/-- The quotient of a double has a positive denominator. -/
theorem quotient_pos (x : Double) : 0 < x.quotient.2 :=
  scaleDown_pos _ Nat.one_pos _

/-- A product from one upwards is rounded once. -/
theorem within_mul? (h : x.mul? y = some z) (hone : 1 ≤ x.value * y.value)
    : z.Normal ∧ Within 1 (x.value * y.value) z.value := by
  have hpos := Nat.mul_pos x.quotient_pos y.quotient_pos
  have hproduct : x.value * y.value
      = ratio (x.quotient.1 * y.quotient.1, x.quotient.2 * y.quotient.2) := by
    rw [← ratio_quotient, ← ratio_quotient, ratio, ratio, ratio, div_mul_div_comm]
    push_cast
    rfl
  rw [hproduct] at hone ⊢
  have hle := (one_le_ratio_iff hpos).mp hone
  exact ⟨normal_of_ofQuotient? hpos hle h, within_ofQuotient? hpos hle h⟩

/-- The powers of ten that decimals are scaled by are in range. -/
theorem isSome_tenTo {n : Nat} (h : n ≤ greatestPower) : (ofQuotient? (tenTo n) 1).isSome = true := by
  rcases Nat.lt_or_eq_of_le h with hless | rfl
  · refine isSome_ofQuotient? Nat.one_pos (tenTo_pos n) ?_
    have hpower : tenTo n < twoTo 1023 :=
      (tenTo_mono (Nat.le_of_lt_succ hless)).trans_lt (by decide +kernel)
    rw [Nat.cast_one, div_one]
    rw [twoTo_eq] at hpower
    exact_mod_cast hpower
  · decide +kernel

/-- The table of powers of ten is right but for one rounding. -/
theorem within_powerOfTen {n : Nat} (h : n ≤ greatestPower)
    : Within 1 (tenTo n) (powerOfTen n).value := by
  obtain ⟨power, hpower⟩ := Option.isSome_iff_exists.mp (isSome_tenTo h)
  have hnear := within_ofQuotient? Nat.one_pos (tenTo_pos n) hpower
  rw [powerOfTen, hpower, Option.getD_some]
  rwa [Nat.cast_one, div_one] at hnear

/-- No value is negative, since the sign is kept apart. -/
theorem value_nonneg (x : Double) : 0 ≤ x.value := by
  rw [value]
  positivity

/-- A number with zeros behind it is read with three roundings. -/
theorem within_ofScientific? {whole zeros : Nat} (hwhole : 2 ≤ whole)
    (h : ofScientific? whole zeros = some x)
    : x.Normal ∧ Within 3 (whole * tenTo zeros : Nat) x.value := by
  rw [ofScientific?, Option.bind_eq_bind, Option.bind_eq_some_iff] at h
  obtain ⟨first, hfirst, h⟩ := h
  have hnear := within_ofQuotient? Nat.one_pos (by omega : 1 ≤ whole) hfirst
  rw [Nat.cast_one, div_one] at hnear
  rw [if_pos (Int.natCast_nonneg zeros), Int.toNat_natCast] at h
  split at h
  · rename_i hzeros
    have hpower := within_powerOfTen (Int.ofNat_le.mp hzeros)
    have hfactors := hnear.mul hpower (by positivity) first.value_nonneg (by positivity)
      (value_nonneg _)
    rw [← Nat.cast_mul] at hfactors
    have hone : 1 ≤ first.value * (powerOfTen zeros).value := by
      have htwo : (2 : ℚ) ≤ (whole * tenTo zeros : Nat) := by
        exact_mod_cast hwhole.trans (Nat.le_mul_of_pos_right whole (tenTo_pos zeros))
      have hlow := htwo.trans hfactors.first_le
      norm_num at hlow
      linarith
    obtain ⟨hnormal, hproduct⟩ := within_mul? h hone
    have hall : Within (1 + 1 + 1) (whole * tenTo zeros : Nat) x.value := hfactors.trans hproduct
    exact ⟨hnormal, hall⟩
  · split at h
    · rename_i hzero
      have hnormal := normal_of_ofQuotient? Nat.one_pos (by omega : 1 ≤ whole) hfirst
      exact absurd hzero hnormal.pos.ne'
    · cases h

end Double

end LeasePapers.Number
