import LeasePapers.Amount.Reader
import LeasePapers.Proofs.Amount.Value
import LeasePapers.Proofs.Number.Digits

/-! Amounts as they are read. A separator that stands once, behind all separators of the other kind,
is the decimal mark; digits are read exactly as long as they fit, and zeros that no longer fit are
lost without harm.
-/

namespace LeasePapers.Amount

-----------------------------------------------------------------------------------------
-- The decimal mark
-----------------------------------------------------------------------------------------

/-- Whether a character is one of the two separators. -/
def isSeparator (c : Char) : Bool :=
  c == ',' || c == '.'

section

variable {mark : Char} {before after : Text} (hmark : isSeparator mark = true)
  (hbefore : mark ∉ before) (hafter : ∀ c ∈ after, isSeparator c = false)

include hmark hafter

/-- A mark with none behind it is the last separator. -/
theorem lastSeparator?_mark (before : Text)
    : lastSeparator? (before ++ mark :: after) = some mark := by
  have hnone : after.reverse.find? (fun c => c = ',' || c = '.') = none := by
    refine List.find?_eq_none.mpr (fun c hc => ?_)
    simpa [isSeparator] using hafter c (List.mem_reverse.mp hc)
  have hfound : (mark :: before.reverse).find? (fun c => c = ',' || c = '.') = some mark :=
    List.find?_cons_of_pos (by simpa [isSeparator] using hmark)
  rw [lastSeparator?, List.reverse_append, List.reverse_cons, List.append_assoc,
    List.find?_append, hnone]
  simpa using hfound

include hbefore

/-- A mark with few digits behind it is the decimal mark. -/
theorem decimalMark?_mark : decimalMark? (before ++ mark :: after) = some mark := by
  have hcount : (before ++ mark :: after).count mark = 1 := by
    have hrest : mark ∉ after := fun hmem => by simp [hafter mark hmem] at hmark
    simp [List.count_eq_zero.mpr hbefore, List.count_eq_zero.mpr hrest]
  have hsome : ¬ (((before ++ mark :: after).count ',' = 0
        ∨ (before ++ mark :: after).count '.' = 0)
      ∧ (before ++ mark :: after).count ',' + (before ++ mark :: after).count '.' ≠ 1) := by
    obtain rfl | rfl : mark = ',' ∨ mark = '.' := by simpa [isSeparator] using hmark
    · omega
    · omega
  rw [decimalMark?, if_neg hsome, lastSeparator?_mark hmark hafter]

/-- The plain form has a dot for the mark and none of the separators before it. -/
theorem plainForm_mark
    : plainForm (before ++ mark :: after)
      = before.filter (fun c => !isSeparator c) ++ '.' :: after := by
  have hsep : ∀ c, (c = ',' ∨ c = '.') ↔ isSeparator c = true := by simp [isSeparator]
  rw [plainForm, decimalMark?_mark hmark hbefore hafter]
  simp only [List.filterMap_append, List.filterMap_cons, if_true, hsep, Option.some.injEq]
  congr 1
  · rw [← List.filterMap_eq_filter]
    refine List.filterMap_congr (fun c hc => ?_)
    have hother : mark ≠ c := fun h => hbefore (h ▸ hc)
    cases h : isSeparator c <;> simp [hother, h, Option.guard]
  · congr 1
    refine (List.filterMap_congr (fun c hc => ?_)).trans List.filterMap_some
    have hother : mark ≠ c := by
      rintro rfl
      simp [hafter mark hc] at hmark
    simp [hother, hafter c hc]

end

-----------------------------------------------------------------------------------------
-- Digits
-----------------------------------------------------------------------------------------

/-- Reading further digits makes a number no smaller, by induction on them. -/
theorem le_ofDigitChars (digits : Text) (n : Nat) : n ≤ Nat.ofDigitChars 10 digits n := by
  rw [Nat.ofDigitChars_eq_ofDigitChars_zero]
  have hscaled := Nat.le_mul_of_pos_left n (Number.tenTo_pos digits.length)
  exact Nat.le_trans hscaled (Nat.le_add_right _ _)

/-- Digits are read one after another as long as their number fits and, behind the mark, as there
are places left, by induction on the digits. -/
theorem readFrom?_digits {digits : Text} (hdigits : ∀ c ∈ digits, c.isDigit = true)
    {mantissa scale : Nat} {pointed seen : Bool} (rest : Text)
    (hfits : Nat.ofDigitChars 10 digits mantissa < mantissaBound)
    (hscale : pointed = true → scale + digits.length ≤ greatestScale)
    : readFrom? mantissa scale pointed seen (digits ++ rest)
      = readFrom? (Nat.ofDigitChars 10 digits mantissa)
          (if pointed then scale + digits.length else scale) pointed (seen || !digits.isEmpty)
          rest := by
  induction digits generalizing mantissa scale seen with
  | nil => simp
  | cons c digits ih =>
      obtain ⟨hc, hmore⟩ := List.forall_mem_cons.mp hdigits
      rw [Nat.ofDigitChars_cons, Nat.mul_comm 10] at hfits ⊢
      have hnext := Nat.lt_of_le_of_lt (le_ofDigitChars digits _) hfits
      have hroom : (pointed && scale == greatestScale) = false := by
        cases pointed with
        | false => rfl
        | true =>
            have hless := hscale rfl
            rw [List.length_cons] at hless
            simp
            omega
      rw [List.cons_append, readFrom?, hroom, if_neg Bool.false_ne_true, if_pos hc]
      simp only [hnext, if_true]
      rw [ih hmore hfits]
      · cases pointed <;> simp [Nat.add_comm, Nat.add_left_comm]
      · intro hpointed
        have hless := hscale hpointed
        rw [List.length_cons] at hless
        rw [if_pos hpointed]
        omega

/-- A zero is rounded off without a change. -/
theorem roundOff?_zero (mantissa scale : Nat)
    : roundOff? mantissa scale '0' = some (mantissa, scale) := by
  simp [roundOff?]

/-- Zeros behind the mark are read until no more fit, by induction on their number. -/
theorem readFrom?_zeros (n : Nat) {mantissa scale : Nat} (hfits : mantissa < mantissaBound)
    (hscale : scale ≤ greatestScale)
    : ∃ kept, mantissa * Number.tenTo kept < mantissaBound ∧ scale + kept ≤ greatestScale
        ∧ readFrom? mantissa scale true true (List.replicate n '0')
          = some (mantissa * Number.tenTo kept, scale + kept) := by
  have hone : ∀ n, n * Number.tenTo 0 = n := Nat.mul_one
  induction n generalizing mantissa scale with
  | zero => exact ⟨0, by rwa [hone], hscale, by simp [readFrom?, hone]⟩
  | succ n ih =>
      by_cases hlast : scale = greatestScale
      · refine ⟨0, by rwa [hone], hscale, ?_⟩
        simp [List.replicate_succ, readFrom?, hlast, roundOff?_zero, hone]
      by_cases hmore : mantissa * 10 < mantissaBound
      · obtain ⟨kept, hbound, hroom, hread⟩ := ih hmore (by omega : scale + 1 ≤ greatestScale)
        have hnext : mantissa * Number.tenTo (kept + 1) = mantissa * 10 * Number.tenTo kept := by
          rw [Number.tenTo_succ, Nat.mul_assoc, Nat.mul_comm 10]
        refine ⟨kept + 1, by rwa [hnext], by omega, ?_⟩
        simp [List.replicate_succ, readFrom?, hlast, hmore, hread, hnext, Nat.add_comm,
          Nat.add_left_comm]
      · refine ⟨0, by rwa [hone], hscale, ?_⟩
        simp [List.replicate_succ, readFrom?, hlast, hmore, roundOff?_zero, hone]

-----------------------------------------------------------------------------------------
-- Decimals
-----------------------------------------------------------------------------------------

/-- Parts in range make an amount with the value of the parts. -/
theorem exists_ofParts? (negative : Bool) {mantissa scale : Nat} (hfits : mantissa < mantissaBound)
    (hscale : scale ≤ greatestScale)
    : ∃ amount, ofParts? negative mantissa scale = some amount
        ∧ amount.value = signedValue negative mantissa scale := by
  rw [ofParts?, dif_pos ⟨hfits, hscale⟩]
  exact ⟨_, rfl, signedValue_unsignedZero negative mantissa scale⟩

/-- A value does not change with zeros behind its last place. -/
theorem signedValue_mul_tenTo (negative : Bool) (mantissa scale kept : Nat)
    : signedValue negative (mantissa * Number.tenTo kept) (scale + kept)
      = signedValue negative mantissa scale := by
  have hsame : ((mantissa * Number.tenTo kept : Nat) : ℚ) / 10 ^ (scale + kept)
      = mantissa / 10 ^ scale := by
    rw [Nat.cast_mul, cast_tenTo, pow_add]
    field_simp
  rw [signedValue, signedValue, hsame]

/-- A hyphen in front is the sign, and all else is read digit by digit. -/
theorem ofPlain?_eq (negative : Bool) {text : Text} (h : text.head? ≠ some '-')
    : ofPlain? ((if negative then ['-'] else []) ++ text)
      = (readFrom? 0 0 false false text).bind (fun (mantissa, scale) =>
          ofParts? negative mantissa scale) := by
  cases negative with
  | true => rfl
  | false =>
      rw [if_neg Bool.false_ne_true, List.nil_append, ofPlain?]
      rintro rest rfl
      exact h rfl

section

variable {whole places : Text} (hne : whole ≠ []) (hwhole : ∀ c ∈ whole, c.isDigit = true)
  (hplaces : ∀ c ∈ places, c.isDigit = true)
  (hfits : Number.ofDigits (whole ++ places) < mantissaBound)
  (hscale : places.length ≤ greatestScale)

include hne hwhole hplaces hfits hscale

/-- Digits, a mark and further digits are read exactly if they fit, whatever zeros follow. -/
theorem readFrom?_decimal (n : Nat)
    : ∃ kept, Number.ofDigits (whole ++ places) * Number.tenTo kept < mantissaBound
        ∧ places.length + kept ≤ greatestScale
        ∧ readFrom? 0 0 false false (whole ++ '.' :: (places ++ List.replicate n '0'))
          = some (Number.ofDigits (whole ++ places) * Number.tenTo kept, places.length + kept) := by
  have hsplit : Number.ofDigits (whole ++ places)
      = Nat.ofDigitChars 10 places (Nat.ofDigitChars 10 whole 0) :=
    Nat.ofDigitChars_append 0
  have hbefore : Nat.ofDigitChars 10 whole 0 < mantissaBound :=
    Nat.lt_of_le_of_lt (le_ofDigitChars places _) (hsplit ▸ hfits)
  obtain ⟨kept, hbound, hroom, hzeros⟩ := readFrom?_zeros n hfits hscale
  refine ⟨kept, hbound, hroom, ?_⟩
  have hmark : readFrom? (Nat.ofDigitChars 10 whole 0) 0 false true
        ('.' :: (places ++ List.replicate n '0'))
      = readFrom? (Nat.ofDigitChars 10 whole 0) 0 true true (places ++ List.replicate n '0') := by
    rw [readFrom?]
    simp
  have hseen : (false || !whole.isEmpty) = true := by simpa using hne
  rw [readFrom?_digits hwhole _ hbefore Bool.noConfusion, hseen, if_neg Bool.false_ne_true, hmark,
    readFrom?_digits hplaces _ (hsplit ▸ hfits) (fun _ => by omega), ← hsplit, if_pos rfl,
    Nat.zero_add, Bool.true_or, hzeros]

/-- Such a decimal is read as an amount of its value, negative behind a hyphen. -/
theorem exists_ofPlain? (negative : Bool) (n : Nat)
    : ∃ amount, ofPlain? ((if negative then ['-'] else [])
          ++ (whole ++ '.' :: (places ++ List.replicate n '0'))) = some amount
        ∧ amount.value
          = signedValue negative (Number.ofDigits (whole ++ places)) places.length := by
  obtain ⟨kept, hbound, hroom, hread⟩ := readFrom?_decimal hne hwhole hplaces hfits hscale n
  obtain ⟨amount, hamount, hvalue⟩ := exists_ofParts? negative hbound hroom
  refine ⟨amount, ?_, hvalue.trans (signedValue_mul_tenTo _ _ _ _)⟩
  have hhead : (whole ++ '.' :: (places ++ List.replicate n '0')).head? ≠ some '-' := by
    obtain ⟨c, rest, rfl⟩ := List.exists_cons_of_ne_nil hne
    intro hhyphen
    obtain rfl := Option.some.inj hhyphen
    cases hwhole _ List.mem_cons_self
  rw [ofPlain?_eq negative hhead, hread]
  exact hamount

end

end LeasePapers.Amount
