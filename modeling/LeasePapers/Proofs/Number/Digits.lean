import LeasePapers.Number.Digits
import LeasePapers.Number.Power

/-! Padded numbers: digits only, read back as the number, and as long as the width unless the number
itself is longer. A number is written as it was read, unless a needless zero stood in front.
-/

namespace LeasePapers.Number

/-- Padded digits are digits. -/
theorem isDigit_of_mem_paddedDigits {width n : Nat} {c : Char} (h : c ∈ paddedDigits width n)
    : c.isDigit = true := by
  rcases List.mem_append.mp h with hzero | hdigit
  · rw [List.eq_of_mem_replicate hzero]
    decide
  · exact Nat.isDigit_of_mem_toDigits (by decide) (by decide) hdigit

/-- Leading zeros do not matter to a number that is read. -/
theorem ofDigits_paddedDigits (width n : Nat) : ofDigits (paddedDigits width n) = n := by
  rw [ofDigits, paddedDigits, Nat.ofDigitChars_append, Nat.ofDigitChars_replicate_zero,
    Nat.mul_zero]
  exact ofDigits_digits n

/-- There are as many padded digits as the width asks for, or the number takes. -/
theorem length_paddedDigits (width n : Nat)
    : (paddedDigits width n).length = max width (digits n).length := by
  rw [paddedDigits, List.length_append, List.length_replicate]
  omega

/-- There are at least as many padded digits as the width asks for. -/
theorem le_length_paddedDigits (width n : Nat) : width ≤ (paddedDigits width n).length := by
  rw [length_paddedDigits]
  omega

/-- A number that fits a width is padded to that width. -/
theorem length_paddedDigits_of_lt {width n : Nat} (hpos : 0 < width) (h : n < tenTo width)
    : (paddedDigits width n).length = width := by
  have hfits : (digits n).length ≤ width := (Nat.length_toDigits_le_iff (by decide) hpos).mpr h
  rw [length_paddedDigits]
  omega

-----------------------------------------------------------------------------------------
-- Digits that are read
-----------------------------------------------------------------------------------------

/-- Zeros behind digits multiply by powers of ten. -/
theorem ofDigits_append_zeros (digits : Text) (n : Nat)
    : ofDigits (digits ++ List.replicate n '0') = tenTo n * ofDigits digits := by
  rw [ofDigits, Nat.ofDigitChars_append, Nat.ofDigitChars_replicate_zero]
  rfl

/-- A digit is the one of its value. -/
theorem exists_digitChar_of_isDigit {c : Char} (h : c.isDigit = true)
    : ∃ n < 10, c.toNat - '0'.toNat = n ∧ c = n.digitChar := by
  have hcode : ∀ n < 10, Char.ofNat (48 + n) = n.digitChar := by decide
  simp only [Char.isDigit, Bool.and_eq_true, decide_eq_true_eq, ge_iff_le,
    UInt32.le_iff_toNat_le] at h
  have hlow : 48 ≤ c.toNat := h.1
  have hhigh : c.toNat ≤ 57 := h.2
  refine ⟨c.toNat - 48, by omega, rfl, ?_⟩
  rw [← hcode _ (by omega), Nat.add_sub_cancel' hlow, Char.ofNat_toNat]

/-- Digits spell a number below the power of ten of their count, by induction on them. -/
theorem ofDigits_lt {text : Text} (hdigits : ∀ c ∈ text, c.isDigit = true)
    : ofDigits text < tenTo text.length := by
  induction text with
  | nil => decide
  | cons c text ih =>
      rw [List.forall_mem_cons] at hdigits
      obtain ⟨d, hd, hvalue, -⟩ := exists_digitChar_of_isDigit hdigits.1
      have hrest := ih hdigits.2
      have hfirst : tenTo text.length * d ≤ tenTo text.length * 9 :=
        Nat.mul_le_mul_left _ (by omega)
      have htext : ofDigits (c :: text) = tenTo text.length * d + ofDigits text := by
        rw [ofDigits, Nat.ofDigitChars_cons, hvalue, Nat.ofDigitChars_eq_ofDigitChars_zero,
          Nat.mul_zero, Nat.zero_add]
        rfl
      rw [htext, List.length_cons, tenTo_succ]
      omega

/-- Digits behind those of a positive number are the last digits of a greater one, by induction on
them.
-/
theorem digits_ofDigitChars {behind : Text} (hdigits : ∀ c ∈ behind, c.isDigit = true) {n : Nat}
    (hn : 0 < n)
    : digits (Nat.ofDigitChars 10 behind n) = digits n ++ behind := by
  induction behind generalizing n with
  | nil => exact (List.append_nil _).symm
  | cons c behind ih =>
      rw [List.forall_mem_cons] at hdigits
      obtain ⟨d, hd, hvalue, rfl⟩ := exists_digitChar_of_isDigit hdigits.1
      have hnext : digits (10 * n + d) = digits n ++ [d.digitChar] := by
        rw [digits, digits, ← Nat.toDigits_append_toDigits (by decide) hn hd,
          Nat.toDigits_of_lt_base hd]
      rw [Nat.ofDigitChars_cons, hvalue, ih hdigits.2 (by omega), hnext, List.append_assoc,
        List.singleton_append]

/-- Digits without needless zeros are those of the number that they spell. -/
theorem digits_ofDigits {text : Text} (hdigits : ∀ c ∈ text, c.isDigit = true) (hne : text ≠ [])
    (hzero : ∀ behind, text = '0' :: behind → behind = [])
    : digits (ofDigits text) = text := by
  cases text with
  | nil => exact absurd rfl hne
  | cons c behind =>
      rw [List.forall_mem_cons] at hdigits
      obtain ⟨d, hd, hvalue, rfl⟩ := exists_digitChar_of_isDigit hdigits.1
      have hfirst : digits d = [d.digitChar] := Nat.toDigits_of_lt_base hd
      rw [ofDigits, Nat.ofDigitChars_cons, hvalue, Nat.mul_zero, Nat.zero_add]
      rcases Nat.eq_zero_or_pos d with rfl | hpos
      · obtain rfl := hzero behind rfl
        rfl
      · rw [digits_ofDigitChars hdigits.2 hpos, hfirst, List.singleton_append]

end LeasePapers.Number
