import Mathlib.Data.List.DropRight
import LeasePapers.Number.Shortest
import LeasePapers.Proofs.Number.Digits
import LeasePapers.Proofs.Number.Double

/-! Seventeen digits suffice. Sixteen places below its first digit, the decimal grid is finer than
the gap between a magnitude and its neighbours, so the search for the shortest decimal ends there at
the latest. A magnitude of seventeen digits or more is therefore written with at most seventeen of
its own, and zeros behind them.
-/

namespace LeasePapers.Number

/-- A positive number lies between two neighbouring powers of ten by its count of digits. -/
theorem digits_length_spec {n : Nat} (hpos : 0 < n)
    : 0 < (digits n).length ∧ tenTo ((digits n).length - 1) ≤ n ∧ n < tenTo (digits n).length := by
  have hlength : 0 < (digits n).length := Nat.length_toDigits_pos
  refine ⟨hlength, ?_, (Nat.length_toDigits_le_iff (by decide) hlength).mp (Nat.le_refl _)⟩
  by_contra hsmall
  rcases Nat.eq_zero_or_pos ((digits n).length - 1) with hzero | hrest
  · rw [hzero] at hsmall
    exact hsmall hpos
  · have hfewer := (Nat.length_toDigits_le_iff (by decide) hrest).mpr (Nat.lt_of_not_le hsmall)
    rw [← digits] at hfewer
    omega

namespace Double

variable {x : Double} {tie : Tie} {grid : Int} {multiple : Nat}

/-- A double with a positive significand has a positive value. -/
theorem value_pos (h : 0 < x.significand) : 0 < x.value := by
  have hcast : (0 : ℚ) < x.significand := by exact_mod_cast h
  rw [value]
  positivity

/-- A positive magnitude lies between two neighbouring powers of ten. -/
theorem floorLog10_spec (hpos : 0 < x.significand)
    : (10 : ℚ) ^ x.floorLog10 ≤ x.value ∧ x.value < 10 ^ (x.floorLog10 + 1) := by
  have hvalue := value_pos hpos
  have hdown := x.quotient_pos
  rw [← ratio_quotient] at hvalue ⊢
  rw [floorLog10]
  generalize x.quotient = quotient at hvalue hdown ⊢
  obtain ⟨up, down⟩ := quotient
  simp only [ratio] at hvalue hdown ⊢
  have hdown' : (0 : ℚ) < down := by exact_mod_cast hdown
  have hup' : (0 : ℚ) < up := (div_pos_iff_of_pos_right hdown').mp hvalue
  have hup : 0 < up := by exact_mod_cast hup'
  split
  · rename_i hle
    obtain ⟨hlength, hlow, hhigh⟩ := digits_length_spec (Nat.div_pos hle hdown)
    have hlow' := (Nat.le_div_iff_mul_le hdown).mp hlow
    have hhigh' := (Nat.div_lt_iff_lt_mul hdown).mp hhigh
    have hexponent : (((digits (up / down)).length : Int) - 1)
        = (((digits (up / down)).length - 1 : Nat) : Int) := by omega
    rw [sub_add_cancel, hexponent, zpow_natCast, zpow_natCast, le_div_iff₀ hdown',
      div_lt_iff₀ hdown']
    exact ⟨by exact_mod_cast hlow', by exact_mod_cast hhigh'⟩
  · rename_i hlt
    obtain ⟨hlength, hlow, hhigh⟩ := digits_length_spec (Nat.div_pos (Nat.le_of_not_le hlt) hup)
    have hlow' := (Nat.le_div_iff_mul_le hup).mp hlow
    have hhigh' := (Nat.div_lt_iff_lt_mul hup).mp hhigh
    generalize (digits (down / up)).length = length at hlength hlow' hhigh' ⊢
    obtain ⟨places, rfl⟩ := Nat.exists_eq_add_one.mpr hlength
    rw [Nat.add_sub_cancel] at hlow' ⊢
    have hpower : ∀ n : Nat, (10 : ℚ) ^ (-(n : ℤ)) ≤ up / down ↔ down ≤ up * tenTo n := by
      intro n
      rw [zpow_neg, zpow_natCast, le_div_iff₀ hdown', inv_mul_le_iff₀ (by positivity), mul_comm,
        tenTo_eq]
      exact_mod_cast Iff.rfl
    split
    · rename_i hexact
      have hone : (1 : Int) - (places + 1 : Nat) = -places := by omega
      rw [hone, hpower]
      refine ⟨hexact, ?_⟩
      have hle : (up : ℚ) / down ≤ 10 ^ (-(places : ℤ)) := by
        rw [zpow_neg, zpow_natCast, div_le_iff₀ hdown', le_inv_mul_iff₀ (by positivity)]
        exact_mod_cast hlow'
      exact hle.trans_lt (zpow_lt_zpow_right₀ (by norm_num) (by omega))
    · rename_i hinexact
      have hnext : -((places + 1 : Nat) : Int) + 1 = -places := by omega
      rw [hnext, hpower, ← not_le, hpower, Nat.mul_comm]
      exact ⟨hhigh'.le, hinexact⟩

-----------------------------------------------------------------------------------------
-- The decimals next to a magnitude
-----------------------------------------------------------------------------------------

/-- The unit of a grid is a positive quotient. -/
theorem unitOn_pos (x : Double) (grid : Int)
    : 0 < (x.unitOn grid).1 ∧ 0 < (x.unitOn grid).2 := by
  have hup : 0 < (scaleDown 1 1 (2 - x.exponent)).1 := scaleDown_fst_pos Nat.one_pos _
  have hdown : 0 < (scaleDown 1 1 (2 - x.exponent)).2 := scaleDown_pos _ Nat.one_pos _
  rw [unitOn]
  generalize scaleDown 1 1 (2 - x.exponent) = scaled at hup hdown ⊢
  obtain ⟨up, down⟩ := scaled
  simp only
  split
  · exact ⟨hup, Nat.mul_pos hdown (tenTo_pos _)⟩
  · exact ⟨Nat.mul_pos hup (tenTo_pos _), hdown⟩

/-- A magnitude counted in quarters of its last place. -/
theorem value_eq_quarters (x : Double)
    : x.value = (4 * x.significand : Nat) * 2 ^ (x.exponent - 2) := by
  have htwo : (2 : ℚ) ^ x.exponent = 4 * 2 ^ (x.exponent - 2) := by
    rw [zpow_sub₀ (by norm_num)]
    norm_num
    ring
  rw [value, htwo]
  push_cast
  ring

/-- On a grid a unit is the power of two of the interval, counted in the power of ten of the grid.
-/
theorem ratio_unitOn (x : Double) (grid : Int)
    : ratio (x.unitOn grid) = 2 ^ (x.exponent - 2) / 10 ^ grid := by
  have hunit := ratio_scaleDown 1 1 (2 - x.exponent)
  rw [Nat.cast_one, div_one, one_div, ← zpow_neg, neg_sub, ratio] at hunit
  rw [unitOn]
  generalize scaleDown 1 1 (2 - x.exponent) = scaled at hunit ⊢
  obtain ⟨up, down⟩ := scaled
  simp only at hunit ⊢
  split
  · rename_i hgrid
    obtain ⟨n, rfl⟩ := Int.eq_ofNat_of_zero_le hgrid
    rw [ratio, Int.toNat_natCast, Nat.cast_mul, ← div_div, hunit, zpow_natCast]
    simp [tenTo_eq]
  · rename_i hgrid
    obtain ⟨n, rfl⟩ := Int.exists_eq_neg_ofNat (by omega : grid ≤ 0)
    rw [ratio, neg_neg, Int.toNat_natCast, Nat.cast_mul, mul_div_right_comm, hunit, zpow_neg,
      zpow_natCast, div_inv_eq_mul]
    simp [tenTo_eq]

/-- So many quarters of the last place are at most a multiple of the grid. -/
theorem mul_unit_le_iff (x : Double) (grid : Int) (count multiple : Nat)
    : count * (x.unitOn grid).1 ≤ multiple * (x.unitOn grid).2
      ↔ (count : ℚ) * 2 ^ (x.exponent - 2) ≤ multiple * 10 ^ grid := by
  have hdown : (0 : ℚ) < (x.unitOn grid).2 := by exact_mod_cast (x.unitOn_pos grid).2
  have hratio := x.ratio_unitOn grid
  rw [ratio] at hratio
  rw [← @Nat.cast_le ℚ, Nat.cast_mul, Nat.cast_mul, ← div_le_iff₀ hdown, mul_div_assoc, hratio,
    mul_div_assoc', div_le_iff₀ (by positivity)]

/-- A multiple of the grid is at most so many quarters of the last place. -/
theorem le_mul_unit_iff (x : Double) (grid : Int) (count multiple : Nat)
    : multiple * (x.unitOn grid).2 ≤ count * (x.unitOn grid).1
      ↔ (multiple : ℚ) * 10 ^ grid ≤ count * 2 ^ (x.exponent - 2) := by
  have hdown : (0 : ℚ) < (x.unitOn grid).2 := by exact_mod_cast (x.unitOn_pos grid).2
  have hratio := x.ratio_unitOn grid
  rw [ratio] at hratio
  rw [← @Nat.cast_le ℚ, Nat.cast_mul, Nat.cast_mul, ← le_div_iff₀ hdown, mul_div_assoc, hratio,
    mul_div_assoc', le_div_iff₀ (by positivity)]

/-- Of two neighbouring multiples, one on each side of a magnitude, one reads back where the grid is
finer than the interval. -/
theorem readsBack_or {borders : Interval} {unit : Nat × Nat} (hlow : borders.low ≤ borders.middle)
    (hhigh : borders.middle < borders.high) (hunit : 0 < unit.1)
    (hbelow : multiple * unit.2 ≤ borders.middle * unit.1)
    (habove : borders.middle * unit.1 < (multiple + 1) * unit.2)
    (hfine : unit.2 < (borders.high - borders.low) * unit.1)
    : readsBack borders unit multiple = true ∨ readsBack borders unit (multiple + 1) = true := by
  have hlow' : borders.low * unit.1 ≤ borders.middle * unit.1 := Nat.mul_le_mul_right _ hlow
  have hhigh' : borders.middle * unit.1 < borders.high * unit.1 :=
    Nat.mul_lt_mul_of_pos_right hhigh hunit
  rw [Nat.sub_mul] at hfine
  rw [Nat.add_mul, Nat.one_mul] at habove
  simp only [readsBack, Nat.add_mul, Nat.one_mul]
  split <;> simp <;> omega

/-- A multiple of the grid next to a magnitude is found where the grid is finer than the interval.
-/
theorem isSome_onGrid?
    (hfine : (x.unitOn grid).2 < (x.interval.high - x.interval.low) * (x.unitOn grid).1)
    : (x.onGrid? tie grid).isSome = true := by
  obtain ⟨hup, hdown⟩ := x.unitOn_pos grid
  have hfound := @readsBack_or _ x.interval _ (Nat.sub_le _ _)
    (Nat.lt_add_of_pos_right Nat.two_pos) hup (Nat.div_mul_le_self _ _)
    ((Nat.div_lt_iff_lt_mul hdown).mp (Nat.lt_succ_self _)) hfine
  simp only [onGrid?]
  split
  · rename_i hbelow habove
    rw [hbelow, habove] at hfound
    simp at hfound
  · rfl
  · rfl
  · split_ifs
    · rfl
    · rfl
    · cases tie <;> rfl

/-- What is found on a grid is at most one step above the magnitude. -/
theorem onGrid?_le (h : x.onGrid? tie grid = some multiple)
    : multiple ≤ x.interval.middle * (x.unitOn grid).1 / (x.unitOn grid).2 + 1 := by
  simp only [onGrid?] at h
  split at h
  · cases h
  · obtain rfl := Option.some.inj h
    exact Nat.le_add_right _ 1
  · obtain rfl := Option.some.inj h
    exact Nat.le_refl _
  · split_ifs at h
    · obtain rfl := Option.some.inj h
      exact Nat.le_add_right _ 1
    · obtain rfl := Option.some.inj h
      exact Nat.le_refl _
    · cases tie <;> obtain rfl := Option.some.inj h <;> omega

/-- A multiple that is found on a grid is read back as the double. -/
theorem readsBack_of_onGrid? (h : x.onGrid? tie grid = some multiple)
    : readsBack x.interval (x.unitOn grid) multiple = true := by
  simp only [onGrid?] at h
  split at h
  · cases h
  · rename_i hbelow habove
    obtain rfl := Option.some.inj h
    exact hbelow
  · rename_i hbelow habove
    obtain rfl := Option.some.inj h
    exact habove
  · rename_i hbelow habove
    split_ifs at h
    · obtain rfl := Option.some.inj h
      exact hbelow
    · obtain rfl := Option.some.inj h
      exact habove
    · cases tie with
      | upward =>
          obtain rfl := Option.some.inj h
          exact habove
      | toEven =>
          obtain rfl := Option.some.inj h
          rcases Nat.mod_two_eq_zero_or_one
            (x.interval.middle * (x.unitOn grid).1 / (x.unitOn grid).2) with heven | hodd
          · rw [heven]
            exact hbelow
          · rw [hodd]
            exact habove

/-- What is read back lies between the borders. -/
theorem bounds_of_readsBack {borders : Interval} {unit : Nat × Nat}
    (h : readsBack borders unit multiple = true)
    : borders.low * unit.1 ≤ multiple * unit.2 ∧ multiple * unit.2 ≤ borders.high * unit.1 := by
  simp only [readsBack] at h
  split at h
  · simpa using h
  · simp only [Bool.and_eq_true, decide_eq_true_eq] at h
    exact ⟨h.1.le, h.2.le⟩

/-- A decimal that reads back as a magnitude is next to it. -/
theorem within_onGrid? (hnormal : x.Normal) (h : x.onGrid? tie grid = some multiple)
    : Within 2 x.value (multiple * 10 ^ grid) := by
  obtain ⟨hlow, hhigh⟩ := bounds_of_readsBack (readsBack_of_onGrid? h)
  rw [mul_unit_le_iff] at hlow
  rw [le_mul_unit_iff] at hhigh
  -- The borders are two quarters of the last place away at most.
  have hborder : 4 * x.significand ≤ x.interval.low + 2 := by
    simp only [interval]
    split <;> omega
  have hlow' : (4 * x.significand : Nat) ≤ (x.interval.low : ℚ) + 2 := by exact_mod_cast hborder
  have hhigh' : (x.interval.high : ℚ) = (4 * x.significand : Nat) + 2 :=
    Nat.cast_add (4 * x.significand) 2
  have hquarters : (2 : ℚ) ^ 54 ≤ (4 * x.significand : Nat) := by
    exact_mod_cast Nat.mul_le_mul_left 4 hnormal.1
  have hquarter : (0 : ℚ) ≤ 2 ^ (x.exponent - 2) := by positivity
  have hscaled := mul_le_mul_of_nonneg_right hquarters hquarter
  have hbelow := (mul_le_mul_of_nonneg_right hlow' hquarter).trans_eq (add_mul _ _ _)
  rw [hhigh', add_mul] at hhigh
  rw [← value_eq_quarters] at hhigh hbelow hscaled
  constructor <;> norm_num at hscaled ⊢ <;> linarith

-----------------------------------------------------------------------------------------
-- Seventeen digits
-----------------------------------------------------------------------------------------

/-- Sixteen places below the first digit of a magnitude the grid is finer than its interval. -/
theorem interval_wider (hpos : 0 < x.significand) (hlt : x.significand < twoTo 53)
    : (x.unitOn (x.floorLog10 - 16)).2
      < (x.interval.high - x.interval.low) * (x.unitOn (x.floorLog10 - 16)).1 := by
  have hup := (x.unitOn_pos (x.floorLog10 - 16)).1
  have hten : (10 : ℚ) ^ x.floorLog10 = (10 ^ 16 : Nat) * 10 ^ (x.floorLog10 - 16) := by
    rw [Nat.cast_pow, Nat.cast_ofNat, ← zpow_natCast, ← zpow_add₀ (by norm_num)]
    congr 1
    omega
  have hplaces := (floorLog10_spec hpos).1
  rw [hten, value_eq_quarters, ← le_mul_unit_iff] at hplaces
  generalize x.unitOn (x.floorLog10 - 16) = unit at hup hplaces ⊢
  have hsignificand : 4 * x.significand * unit.1 ≤ 4 * 2 ^ 53 * unit.1 :=
    Nat.mul_le_mul_right _ (Nat.mul_le_mul_left 4 hlt.le)
  simp only [interval]
  split
  · rename_i hpower
    rw [hpower.1] at hplaces ⊢
    norm_num [twoTo_eq] at hplaces ⊢
    omega
  · have hwidth : 4 * x.significand + 2 - (4 * x.significand - 2) = 4 := by omega
    rw [hwidth]
    norm_num at hplaces hsignificand
    omega

/-- The search ends sixteen places below the first digit at the latest, by induction on the grids
that are tried before.
-/
theorem exists_searchGrids {places tries : Nat} (htries : places < tries)
    (h : (x.onGrid? tie (grid - places)).isSome = true)
    : ∃ multiple found, searchGrids tie x tries grid = some (multiple, found)
        ∧ x.onGrid? tie found = some multiple ∧ grid - places ≤ found ∧ found ≤ grid := by
  induction tries generalizing grid places with
  | zero => omega
  | succ tries ih =>
      rw [searchGrids]
      cases hhere : x.onGrid? tie grid with
      | some multiple => exact ⟨multiple, grid, rfl, hhere, by omega, by omega⟩
      | none =>
          cases places with
          | zero => simp [hhere] at h
          | succ places =>
              have hnext : grid - (places + 1 : Nat) = grid - 1 - places := by omega
              rw [hnext] at h ⊢
              obtain ⟨multiple, found, hfound, hgrid, hlow, hhigh⟩ := ih (by omega) h
              exact ⟨multiple, found, hfound, hgrid, hlow, by omega⟩

/-- A multiple that is found has no more digits than its grid lies below the first one. -/
theorem lt_tenTo_of_onGrid (hpos : 0 < x.significand) {places : Nat}
    (hgrid : x.floorLog10 + 1 ≤ grid + places)
    : x.interval.middle * (x.unitOn grid).1 / (x.unitOn grid).2 < tenTo places := by
  have hvalue : x.value < 10 ^ (grid + places) :=
    (floorLog10_spec hpos).2.trans_le (zpow_le_zpow_right₀ (by norm_num) hgrid)
  rw [value_eq_quarters, zpow_add₀ (by norm_num), zpow_natCast, mul_comm (10 ^ grid)] at hvalue
  rw [Nat.div_lt_iff_lt_mul (x.unitOn_pos grid).2, ← Nat.not_le, le_mul_unit_iff, not_le, tenTo_eq,
    Nat.cast_pow]
  exact hvalue

/-- A number up to the seventeenth power of ten has at most seventeen digits without zeros at the
end. -/
theorem length_rdropWhile_digits {n : Nat} (h : n ≤ tenTo 17)
    : ((digits n).rdropWhile (· == '0')).length ≤ 17 := by
  rcases Nat.lt_or_eq_of_le h with hless | rfl
  · exact (List.rdropWhile_prefix _ _).length_le.trans
      ((Nat.length_toDigits_le_iff (by decide) (by decide)).mpr hless)
  · decide

/-- The shortest decimal is a multiple of a grid next to the magnitude, without its last zeros, and
has at most seventeen digits. -/
theorem exists_shortest (hpos : 0 < x.significand) (hlt : x.significand < twoTo 53) (tie : Tie)
    : ∃ multiple grid, x.onGrid? tie grid = some multiple ∧ x.floorLog10 ≤ grid + 16
        ∧ x.shortest tie
          = ⟨(digits multiple).rdropWhile (· == '0'), grid + (digits multiple).length⟩
        ∧ (x.shortest tie).digits.length ≤ 17 := by
  obtain ⟨multiple, grid, hsearch, hfound, hlow, hhigh⟩ :=
    @exists_searchGrids x tie x.floorLog10 16 18 (by decide)
      (isSome_onGrid? (interval_wider hpos hlt))
  have hmultiple : multiple ≤ tenTo 17 :=
    (onGrid?_le hfound).trans (lt_tenTo_of_onGrid hpos (by omega))
  have hshortest : x.shortest tie
      = ⟨(digits multiple).rdropWhile (· == '0'), grid + (digits multiple).length⟩ := by
    rw [shortest, hsearch]
    rfl
  refine ⟨multiple, grid, hfound, by omega, hshortest, ?_⟩
  rw [hshortest]
  exact length_rdropWhile_digits hmultiple

/-- A magnitude of seventeen digits or more is written with at most seventeen of its own and zeros
behind them, and this number is next to it. -/
theorem exists_positional_shortest (hnormal : x.Normal) (hgreat : 10 ^ 16 ≤ x.value) (tie : Tie)
    : ∃ kept zeros, (x.shortest tie).positional = kept ++ List.replicate zeros '0'
        ∧ kept.length ≤ 17
        ∧ Within 2 x.value (ofDigits (kept ++ List.replicate zeros '0')) := by
  obtain ⟨multiple, grid, hfound, hgrid, hshortest, hlength⟩ :=
    exists_shortest hnormal.pos hnormal.2 tie
  have hlog : (16 : Int) < x.floorLog10 + 1 := by
    have hpower := hgreat.trans_lt (floorLog10_spec hnormal.pos).2
    rw [← zpow_natCast] at hpower
    exact_mod_cast (zpow_lt_zpow_iff_right₀ (by norm_num)).mp hpower
  obtain ⟨places, rfl⟩ := Int.eq_ofNat_of_zero_le (by omega : 0 ≤ grid)
  rw [hshortest] at hlength ⊢
  -- The zeros that are dropped and those of the grid stand behind the digits that are kept.
  have hdropped : ∀ c ∈ (digits multiple).rtakeWhile (· == '0'), c = '0' :=
    fun c hc => by simpa using List.mem_rtakeWhile_imp hc
  have hall : (digits multiple).rdropWhile (· == '0') ++ (digits multiple).rtakeWhile (· == '0')
      = digits multiple :=
    List.rdropWhile_append_rtakeWhile
  rw [List.eq_replicate_of_mem hdropped] at hall
  generalize (digits multiple).rdropWhile (· == '0') = kept at hlength hall ⊢
  generalize ((digits multiple).rtakeWhile (· == '0')).length = dropped at hall
  have htext : kept ++ List.replicate (dropped + places) '0'
      = digits multiple ++ List.replicate places '0' := by
    rw [← hall, List.append_assoc, List.replicate_append_replicate]
  have hpositive : 0 < (digits multiple).length := Nat.length_toDigits_pos
  have hcount : (digits multiple).length = kept.length + dropped := by
    rw [← hall, List.length_append, List.length_replicate]
  refine ⟨kept, dropped + places, ?_, hlength, ?_⟩
  · have hsize : ((places : Int) + (digits multiple).length).toNat
        = kept.length + (dropped + places) := by omega
    rw [Decimal.positional, Decimal.parts, if_neg (by simp only; omega)]
    simp only [hsize]
    rw [List.take_of_length_le (by omega), List.drop_of_length_le (by omega),
      Nat.add_sub_cancel_left]
  · rw [htext, ofDigits_append_zeros, ofDigits_digits, Nat.mul_comm]
    have hnear := within_onGrid? hnormal hfound
    rw [zpow_natCast] at hnear
    push_cast [tenTo_eq]
    exact hnear

end Double

end LeasePapers.Number
