import Mathlib.Data.List.DropRight
import LeasePapers.Amount.Printer
import LeasePapers.Proofs.Amount.Value
import LeasePapers.Proofs.Number.Digits

/-! Amounts as they are written. The form of a written amount and the number that it spells are said
apart from the printer: dots stand between groups of three digits, the places behind the comma are
no more than asked for, and without the dots the text spells the rounded amount.
-/

namespace LeasePapers

-----------------------------------------------------------------------------------------
-- The form
-----------------------------------------------------------------------------------------

/-- Digits with dots between groups of three, counted from the right. -/
inductive InGroups : Text → Prop
  | few {digits : Text} (least : 1 ≤ digits.length) (most : digits.length ≤ 3)
      (all : ∀ c ∈ digits, c.isDigit = true)
    : InGroups digits
  | more {text group : Text} (before : InGroups text) (three : group.length = 3)
      (all : ∀ c ∈ group, c.isDigit = true)
    : InGroups (text ++ '.' :: group)

/-- Digits behind the comma, at least and at most so many of them, and no zero at the end beyond the
least. -/
structure FittedPlaces (least most : Nat) (places : Text) : Prop where
  least_le : least ≤ places.length
  le_most : places.length ≤ most
  all : ∀ c ∈ places, c.isDigit = true
  no_zero : least < places.length → places.getLast? ≠ some '0'

/-- A whole part in groups, and the places behind a comma if there are any. -/
inductive UnsignedForm (least most : Nat) : Text → Prop
  | whole {whole : Text} (groups : InGroups whole) (fitted : FittedPlaces least most [])
    : UnsignedForm least most whole
  | pointed {whole places : Text} (groups : InGroups whole)
      (fitted : FittedPlaces least most places) (nonempty : places ≠ [])
    : UnsignedForm least most (whole ++ ',' :: places)

/-- The form of a written amount, with or without a hyphen in front. -/
inductive WrittenForm (least most : Nat) : Text → Prop
  | positive {text : Text} (form : UnsignedForm least most text)
    : WrittenForm least most text
  | negative {text : Text} (form : UnsignedForm least most text)
    : WrittenForm least most ('-' :: text)

-----------------------------------------------------------------------------------------
-- The number
-----------------------------------------------------------------------------------------

/-- The value of digits behind a comma. -/
def placesValue (places : Text) : ℚ :=
  Number.ofDigits places / 10 ^ places.length

/-- Digits spell a number, and so do digits with a comma and further digits behind it. -/
inductive SpellsUnsigned : Text → ℚ → Prop
  | whole {digits : Text} (nonempty : digits ≠ []) (all : ∀ c ∈ digits, c.isDigit = true)
    : SpellsUnsigned digits (Number.ofDigits digits)
  | pointed {digits places : Text} (nonempty : digits ≠ []) (all : ∀ c ∈ digits, c.isDigit = true)
      (allPlaces : ∀ c ∈ places, c.isDigit = true)
    : SpellsUnsigned (digits ++ ',' :: places) (Number.ofDigits digits + placesValue places)

/-- A text spells a number in decimals with a comma, negative behind a hyphen. -/
inductive SpellsDecimal : Text → ℚ → Prop
  | positive {text : Text} {x : ℚ} (spells : SpellsUnsigned text x)
    : SpellsDecimal text x
  | negative {text : Text} {x : ℚ} (spells : SpellsUnsigned text x)
    : SpellsDecimal ('-' :: text) (-x)

-----------------------------------------------------------------------------------------
-- Groups
-----------------------------------------------------------------------------------------

/-- Digits that are put in threes from their end are in groups, three by three, by induction on the
groups. -/
theorem inGroups_groupReversed {reversed : Text} (hne : reversed ≠ [])
    (hdigits : ∀ c ∈ reversed, c.isDigit = true)
    : InGroups (groupReversed reversed).reverse := by
  fun_induction groupReversed reversed with
  | case1 a b c d rest ih =>
      simp only [List.forall_mem_cons] at hdigits
      obtain ⟨ha, hb, hc, hrest⟩ := hdigits
      have hgroup : ∀ e ∈ [c, b, a], e.isDigit = true := by simp [ha, hb, hc]
      have hbefore := ih (List.cons_ne_nil d rest) (List.forall_mem_cons.mpr hrest)
      simpa using InGroups.more hbefore rfl hgroup
  | case2 few hfew =>
      have hmost : few.length ≤ 3 := by
        rcases few with _ | ⟨a, _ | ⟨b, _ | ⟨c, _ | ⟨d, rest⟩⟩⟩⟩
        · simp
        · simp
        · simp
        · simp
        · cases hfew a b c d rest rfl
      refine .few ?_ (by rwa [List.length_reverse]) (fun e he => hdigits e (List.mem_reverse.mp he))
      rw [List.length_reverse]
      exact List.length_pos_iff.mpr hne

/-- Any digits are put in groups. -/
theorem inGroups_groupDigits {digits : Text} (hne : digits ≠ [])
    (hdigits : ∀ c ∈ digits, c.isDigit = true)
    : InGroups (groupDigits digits) :=
  inGroups_groupReversed (List.reverse_ne_nil_iff.mpr hne)
    (fun c hc => hdigits c (List.mem_reverse.mp hc))

/-- Dots are all that grouping adds, by induction on the groups. -/
theorem filter_groupReversed {reversed : Text} (h : ∀ c ∈ reversed, c ≠ '.')
    : (groupReversed reversed).filter (· ≠ '.') = reversed := by
  fun_induction groupReversed reversed with
  | case1 a b c d rest ih =>
      simp only [List.forall_mem_cons] at h
      obtain ⟨ha, hb, hc, hrest⟩ := h
      have hmore := ih (List.forall_mem_cons.mpr hrest)
      simpa [ha, hb, hc] using hmore
  | case2 few hfew => simpa [List.filter_eq_self] using h

/-- No digit is a dot. -/
theorem ne_dot_of_isDigit {c : Char} (h : c.isDigit = true) : c ≠ '.' := by
  rintro rfl
  cases h

/-- Without the dots the digits are as before. -/
theorem filter_groupDigits {digits : Text} (hdigits : ∀ c ∈ digits, c.isDigit = true)
    : (groupDigits digits).filter (· ≠ '.') = digits := by
  rw [groupDigits, List.filter_reverse, filter_groupReversed, List.reverse_reverse]
  exact fun c hc => ne_dot_of_isDigit (hdigits c (List.mem_reverse.mp hc))

-----------------------------------------------------------------------------------------
-- Places
-----------------------------------------------------------------------------------------

/-- Zeros at the end of the places are worth nothing. -/
theorem placesValue_append_zeros (places : Text) (n : Nat)
    : placesValue (places ++ List.replicate n '0') = placesValue places := by
  rw [placesValue, placesValue, Number.ofDigits_append_zeros, List.length_append,
    List.length_replicate, pow_add, Nat.cast_mul, cast_tenTo]
  field_simp

/-- No places add nothing to a number. -/
@[simp] theorem placesValue_nil : placesValue [] = 0 := by
  simp [placesValue, Number.ofDigits]

/-- Places that are too few are filled up with zeros. -/
theorem fitPlaces_of_length_le {least : Nat} {places : Text} (h : places.length ≤ least)
    : fitPlaces least places = places ++ List.replicate (least - places.length) '0' := by
  simp [fitPlaces, List.take_of_length_le h, List.drop_of_length_le h]

/-- Zeros at the end are dropped from places that are more than enough. -/
theorem fitPlaces_of_lt_length {least : Nat} {places : Text} (h : least < places.length)
    : fitPlaces least places = places.take least ++ (places.drop least).rdropWhile (· == '0') := by
  have hnone : least - places.length = 0 := by omega
  simp [fitPlaces, hnone, List.rdropWhile]

/-- Only zeros at the end are taken off. -/
theorem exists_fitPlaces_append {least : Nat} {places : Text} (h : least < places.length)
    : ∃ n, fitPlaces least places ++ List.replicate n '0' = places := by
  have hzeros : ∀ c ∈ (places.drop least).rtakeWhile (· == '0'), c = '0' :=
    fun c hc => by simpa using List.mem_rtakeWhile_imp hc
  refine ⟨((places.drop least).rtakeWhile (· == '0')).length, ?_⟩
  rw [fitPlaces_of_lt_length h, ← List.eq_replicate_of_mem hzeros, List.append_assoc,
    List.rdropWhile_append_rtakeWhile, List.take_append_drop]

/-- Places have the same value when they are fitted. -/
theorem placesValue_fitPlaces (least : Nat) (places : Text)
    : placesValue (fitPlaces least places) = placesValue places := by
  by_cases h : places.length ≤ least
  · rw [fitPlaces_of_length_le h, placesValue_append_zeros]
  · obtain ⟨n, hn⟩ := exists_fitPlaces_append (Nat.lt_of_not_le h)
    rw [← placesValue_append_zeros _ n, hn]

/-- Places that are fitted have the written form of places. -/
theorem fittedPlaces_fitPlaces {least most : Nat} {places : Text} (hleast : least ≤ most)
    (hmost : places.length ≤ most) (hdigits : ∀ c ∈ places, c.isDigit = true)
    : FittedPlaces least most (fitPlaces least places) := by
  by_cases h : places.length ≤ least
  · have hlength : (fitPlaces least places).length = least := by
      rw [fitPlaces_of_length_le h, List.length_append, List.length_replicate]
      omega
    refine ⟨by omega, by omega, ?_, fun hmore => by omega⟩
    rw [fitPlaces_of_length_le h, List.forall_mem_append]
    refine ⟨hdigits, fun c hc => ?_⟩
    rw [List.eq_of_mem_replicate hc]
    rfl
  · have hmore := Nat.lt_of_not_le h
    obtain ⟨n, hn⟩ := exists_fitPlaces_append hmore
    have hlength := congrArg List.length hn
    rw [List.length_append, List.length_replicate] at hlength
    refine ⟨?_, by omega, ?_, ?_⟩
    · rw [fitPlaces_of_lt_length hmore, List.length_append, List.length_take]
      omega
    · rw [← hn, List.forall_mem_append] at hdigits
      exact hdigits.1
    · intro hbeyond
      have hsome : (places.drop least).rdropWhile (· == '0') ≠ [] := by
        intro hnone
        rw [fitPlaces_of_lt_length hmore, hnone, List.append_nil, List.length_take] at hbeyond
        omega
      rw [fitPlaces_of_lt_length hmore, List.getLast?_append_of_ne_nil _ hsome,
        List.getLast?_eq_some_getLast hsome]
      intro hzero
      exact List.rdropWhile_last_not _ _ hsome (by simp [Option.some.inj hzero])

-----------------------------------------------------------------------------------------
-- The whole amount
-----------------------------------------------------------------------------------------

/-- A decimal as it is written without a sign. -/
def unsignedText (least mantissa scale : Nat) : Text :=
  let whole := groupDigits (wholeDigits mantissa scale)
  let places := fitPlaces least (placeDigits mantissa scale)
  if places = [] then whole else whole ++ [','] ++ places

section

variable (mantissa scale : Nat)

/-- There is a digit in front of the mark. -/
theorem wholeDigits_ne_nil : wholeDigits mantissa scale ≠ [] :=
  Nat.toDigits_ne_nil

/-- In front of the mark stand digits. -/
theorem isDigit_of_mem_wholeDigits : ∀ c ∈ wholeDigits mantissa scale, c.isDigit = true :=
  fun _ => Nat.isDigit_of_mem_toDigits (by decide) (by decide)

/-- Behind the mark stand digits. -/
theorem isDigit_of_mem_placeDigits : ∀ c ∈ placeDigits mantissa scale, c.isDigit = true := by
  rw [placeDigits]
  split
  · exact fun c hc => nomatch hc
  · exact fun _ => Number.isDigit_of_mem_paddedDigits

/-- There is a digit for every place. -/
theorem length_placeDigits : (placeDigits mantissa scale).length = scale := by
  rw [placeDigits]
  split
  · rename_i hzero
    rw [hzero, List.length_nil]
  · rename_i hsome
    exact Number.length_paddedDigits_of_lt (Nat.pos_of_ne_zero hsome)
      (Nat.mod_lt _ (Number.tenTo_pos scale))

/-- The places are what is left of the mantissa without its whole part. -/
theorem ofDigits_placeDigits
    : Number.ofDigits (placeDigits mantissa scale) = mantissa % Number.tenTo scale := by
  rw [placeDigits]
  split
  · rename_i hzero
    rw [hzero, Number.tenTo_zero, Nat.mod_one]
    rfl
  · exact Number.ofDigits_paddedDigits _ _

/-- The digits before and behind the mark spell the decimal. -/
theorem wholeDigits_add_placeDigits
    : (Number.ofDigits (wholeDigits mantissa scale) : ℚ) + placesValue (placeDigits mantissa scale)
      = mantissa / 10 ^ scale := by
  have hsplit := Nat.div_add_mod mantissa (Number.tenTo scale)
  have hcast : (10 : ℚ) ^ scale * (mantissa / Number.tenTo scale : Nat)
      + (mantissa % Number.tenTo scale : Nat) = mantissa := by
    rw [← cast_tenTo]
    exact_mod_cast hsplit
  rw [wholeDigits, Number.ofDigits_digits, placesValue, ofDigits_placeDigits, length_placeDigits,
    ← hcast]
  field_simp

/-- Fitted places are digits. -/
theorem isDigit_of_mem_fitPlaces (least : Nat)
    : ∀ c ∈ fitPlaces least (placeDigits mantissa scale), c.isDigit = true :=
  (fittedPlaces_fitPlaces (Nat.le_max_left least scale)
    (by rw [length_placeDigits]; exact Nat.le_max_right least scale)
    (isDigit_of_mem_placeDigits mantissa scale)).all

/-- Without the dots of its groups a written decimal spells its value. -/
theorem spells_unsignedText (least : Nat)
    : SpellsUnsigned ((unsignedText least mantissa scale).filter (· ≠ '.'))
        (mantissa / 10 ^ scale) := by
  have hne := wholeDigits_ne_nil mantissa scale
  have hwhole := isDigit_of_mem_wholeDigits mantissa scale
  have hplaces := isDigit_of_mem_fitPlaces mantissa scale least
  have hvalue := wholeDigits_add_placeDigits mantissa scale
  rw [← placesValue_fitPlaces least] at hvalue
  rw [unsignedText, ← hvalue]
  split
  · rename_i hnone
    rw [filter_groupDigits hwhole, hnone, placesValue_nil, add_zero]
    exact .whole hne hwhole
  · have hkept : (fitPlaces least (placeDigits mantissa scale)).filter (· ≠ '.')
        = fitPlaces least (placeDigits mantissa scale) := by
      rw [List.filter_eq_self]
      exact fun c hc => by simpa using ne_dot_of_isDigit (hplaces c hc)
    rw [List.append_assoc, List.filter_append, filter_groupDigits hwhole, List.filter_append, hkept]
    exact .pointed hne hwhole hplaces

/-- A mantissa is written in the form of a number without a sign. -/
theorem unsignedForm_unsignedText {least most : Nat} (hleast : least ≤ most) (hmost : scale ≤ most)
    : UnsignedForm least most (unsignedText least mantissa scale) := by
  have hgroups := inGroups_groupDigits (wholeDigits_ne_nil mantissa scale)
    (isDigit_of_mem_wholeDigits mantissa scale)
  have hfitted := fittedPlaces_fitPlaces hleast (by rwa [length_placeDigits])
    (isDigit_of_mem_placeDigits mantissa scale)
  rw [unsignedText]
  split
  · rename_i hnone
    rw [hnone] at hfitted
    exact .whole hgroups hfitted
  · rename_i hsome
    rw [List.append_assoc]
    exact .pointed hgroups hfitted hsome

end

/-- Groups of digits begin with a digit, by induction on the groups. -/
theorem exists_digit_of_inGroups {text : Text} (h : InGroups text)
    : ∃ c rest, text = c :: rest ∧ c.isDigit = true := by
  induction h with
  | @few digits least most all =>
      obtain ⟨c, rest, rfl⟩ := List.exists_cons_of_length_pos least
      exact ⟨c, rest, rfl, all c List.mem_cons_self⟩
  | @more text group before three all ih =>
      obtain ⟨c, rest, rfl, hc⟩ := ih
      exact ⟨c, rest ++ '.' :: group, rfl, hc⟩

/-- An amount without a sign begins with a digit. -/
theorem exists_digit_of_unsignedForm {least most : Nat} {text : Text}
    (h : UnsignedForm least most text)
    : ∃ c rest, text = c :: rest ∧ c.isDigit = true := by
  cases h with
  | whole groups fitted => exact exists_digit_of_inGroups groups
  | @pointed whole places groups fitted nonempty =>
      obtain ⟨c, rest, rfl, hc⟩ := exists_digit_of_inGroups groups
      exact ⟨c, rest ++ ',' :: places, rfl, hc⟩

/-- A number without a sign does not begin with one. -/
theorem UnsignedForm.head?_ne {least most : Nat} {text : Text} (h : UnsignedForm least most text)
    : text.head? ≠ some '-' := by
  obtain ⟨c, rest, rfl, hc⟩ := exists_digit_of_unsignedForm h
  intro hhyphen
  obtain rfl := Option.some.inj hhyphen
  cases hc

namespace Amount

variable (amount : Amount) (least most : Nat)

/-- Whether a sign is written: none for an amount that is rounded to zero. -/
def writtenNegative (places : Nat) : Bool :=
  amount.negative && (amount.rounded places).1 != 0

/-- A grouped amount is its sign, if it has one, and the rounded mantissa. -/
theorem grouped_eq
    : amount.grouped least most
      = (if amount.writtenNegative most then ['-'] else [])
        ++ unsignedText least (amount.rounded most).1 (amount.rounded most).2 := by
  have hgrouped : amount.grouped least most
      = if amount.negative ∧ (amount.rounded most).1 ≠ 0
        then '-' :: unsignedText least (amount.rounded most).1 (amount.rounded most).2
        else unsignedText least (amount.rounded most).1 (amount.rounded most).2 :=
    rfl
  rw [hgrouped, writtenNegative]
  by_cases h : amount.negative = true ∧ (amount.rounded most).1 ≠ 0
  · have hsign : (amount.negative && (amount.rounded most).1 != 0) = true := by simpa using h
    rw [if_pos h, hsign]
    rfl
  · have hsign : (amount.negative && (amount.rounded most).1 != 0) = false := by simpa using h
    rw [if_neg h, hsign]
    rfl

/-- Rounding the value of an amount gives what is written of it. -/
theorem roundAway_eq
    : roundAway most amount.value
      = signedValue (amount.writtenNegative most) (amount.rounded most).1
          (amount.rounded most).2 := by
  rw [roundAway_value, ← signedValue_unsignedZero]
  rfl

/-- A sign is written if and only if the rounded value is below zero. -/
theorem writtenNegative_iff
    : amount.writtenNegative most = true ↔ roundAway most amount.value < 0 := by
  rw [roundAway_value, signedValue_neg_iff, writtenNegative]
  simp

/-- Rounding leaves no more places than asked for. -/
theorem scale_rounded_le : (amount.rounded most).2 ≤ most := by
  rw [rounded]
  split
  · assumption
  · exact Nat.le_refl most

/-- Without the dots of its groups a written amount spells the rounded value. -/
theorem spells_grouped
    : SpellsDecimal ((amount.grouped least most).filter (· ≠ '.'))
        (roundAway most amount.value) := by
  have hspells := spells_unsignedText (amount.rounded most).1 (amount.rounded most).2 least
  rw [grouped_eq, roundAway_eq]
  cases amount.writtenNegative most with
  | true => exact .negative hspells
  | false => exact .positive hspells

variable {least most}

/-- Behind its sign, a grouped amount has the form of a number. -/
theorem unsignedForm_grouped (h : least ≤ most)
    : UnsignedForm least most
        (unsignedText least (amount.rounded most).1 (amount.rounded most).2) :=
  unsignedForm_unsignedText _ _ h (amount.scale_rounded_le most)

/-- A grouped amount has the form of a written number. -/
theorem writtenForm_grouped (h : least ≤ most)
    : WrittenForm least most (amount.grouped least most) := by
  rw [grouped_eq]
  cases amount.writtenNegative most with
  | true => exact .negative (amount.unsignedForm_grouped h)
  | false => exact .positive (amount.unsignedForm_grouped h)

/-- A grouped amount begins with a minus if and only if it rounds to less than zero. -/
theorem head?_grouped (h : least ≤ most)
    : (amount.grouped least most).head? = some '-' ↔ roundAway most amount.value < 0 := by
  rw [grouped_eq, ← writtenNegative_iff]
  cases amount.writtenNegative most with
  | true => exact iff_of_true rfl rfl
  | false => exact iff_of_false (amount.unsignedForm_grouped h).head?_ne Bool.false_ne_true

/-- A written amount is a whole part in groups of three digits, and behind a comma no fewer places
than the least and no more than the most, without zeros at the end beyond the least. Without the
dots it spells the amount rounded to the most places, a half away from zero, and a hyphen stands in
front exactly if that number is negative.
-/
theorem grouped_exact (h : least ≤ most)
    : WrittenForm least most (amount.grouped least most)
      ∧ SpellsDecimal ((amount.grouped least most).filter (· ≠ '.')) (roundAway most amount.value)
      ∧ ((amount.grouped least most).head? = some '-' ↔ roundAway most amount.value < 0) :=
  ⟨amount.writtenForm_grouped h, amount.spells_grouped least most, amount.head?_grouped h⟩

/-- Rounding carries through all digits here, up to a place that had no digit before. -/
def belowThousand : Amount :=
  ⟨true, 9999995, 4, by decide, by decide, by decide⟩

/-- An amount that rounds up to a further digit is grouped with it. -/
theorem grouped_exact_belowThousand
    : 2 ≤ 3 ∧ belowThousand.grouped 2 3 = "-1.000,00" ∧ WrittenForm 2 3 "-1.000,00"
      ∧ SpellsDecimal "-1000,00" (roundAway 3 belowThousand.value)
      ∧ roundAway 3 belowThousand.value < 0 := by
  have htext : belowThousand.grouped 2 3 = "-1.000,00" := by decide
  have hdots : "-1.000,00".toList.filter (· ≠ '.') = "-1000,00" := by decide
  obtain ⟨hform, hspells, hsign⟩ := belowThousand.grouped_exact (by decide : 2 ≤ 3)
  rw [htext] at hform hspells hsign
  rw [hdots] at hspells
  exact ⟨by decide, htext, hform, hspells, hsign.mp rfl⟩

end Amount

end LeasePapers
