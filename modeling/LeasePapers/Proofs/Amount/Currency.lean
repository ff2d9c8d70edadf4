import LeasePapers.Proofs.Amount.Grouped
import LeasePapers.Proofs.Amount.Reader

/-! Amounts of money that are written and read back. The reader passes over the symbol and finds the
comma by the two places behind it, so that it reads the rounded amount, up to the largest one whose
places no longer fit.
-/

namespace LeasePapers

-----------------------------------------------------------------------------------------
-- What belongs to an amount
-----------------------------------------------------------------------------------------

/-- Digits are part of an amount. -/
theorem isPart_of_isDigit {c : Char} (h : c.isDigit = true) : Amount.isPart c = true := by
  simp [Amount.isPart, h]

/-- Groups of digits hold digits and dots alone, by induction on the groups. -/
theorem isDigit_or_dot_of_inGroups {text : Text} (h : InGroups text)
    : ∀ c ∈ text, c.isDigit = true ∨ c = '.' := by
  induction h with
  | few least most all => exact fun c hc => .inl (all c hc)
  | more before three all ih =>
      rw [List.forall_mem_append, List.forall_mem_cons]
      exact ⟨ih, .inr rfl, fun c hc => .inl (all c hc)⟩

/-- Groups of digits are part of an amount as a whole. -/
theorem isPart_of_inGroups {text : Text} (h : InGroups text)
    : ∀ c ∈ text, Amount.isPart c = true := by
  intro c hc
  obtain hdigit | rfl := isDigit_or_dot_of_inGroups h c hc
  · exact isPart_of_isDigit hdigit
  · rfl

/-- A written number without its sign is part of an amount as a whole. -/
theorem isPart_of_unsignedForm {least most : Nat} {text : Text} (h : UnsignedForm least most text)
    : ∀ c ∈ text, Amount.isPart c = true := by
  cases h with
  | whole groups fitted => exact isPart_of_inGroups groups
  | pointed groups fitted nonempty =>
      simp only [List.forall_mem_append, List.forall_mem_cons]
      exact ⟨isPart_of_inGroups groups, rfl, fun c hc => isPart_of_isDigit (fitted.all c hc)⟩

/-- Everything in a written amount is read. -/
theorem filter_isPart_of_writtenForm {least most : Nat} {text : Text}
    (h : WrittenForm least most text)
    : text.filter Amount.isPart = text := by
  rw [List.filter_eq_self]
  cases h with
  | positive form => exact isPart_of_unsignedForm form
  | negative form => exact List.forall_mem_cons.mpr ⟨rfl, isPart_of_unsignedForm form⟩

/-- A written number has a digit, so it is read as an amount at all. -/
theorem any_isDigit_of_writtenForm {least most : Nat} {text : Text}
    (h : WrittenForm least most text)
    : text.any Char.isDigit = true := by
  cases h with
  | positive form | negative form =>
      obtain ⟨c, rest, rfl, hc⟩ := exists_digit_of_unsignedForm form
      simp [hc]

namespace Amount

variable (amount : Amount)

/-- The symbol and the space behind it are passed over. -/
theorem filter_currency {symbol : Text} (hsymbol : ∀ c ∈ symbol, isPart c = false)
    : (amount.currency symbol).filter isPart = amount.grouped 2 2 := by
  have hgrouped := filter_isPart_of_writtenForm (amount.writtenForm_grouped (Nat.le_refl 2))
  have hnone : symbol.filter isPart = [] := by simpa [List.filter_eq_nil_iff] using hsymbol
  have hspace : [' '].filter isPart = [] := rfl
  rw [currency]
  split
  · rename_i unsigned heq
    rw [heq] at hgrouped ⊢
    rw [List.filter_append, List.filter_append, List.filter_append, hnone, hspace, List.append_nil,
      List.append_nil, ← List.filter_append]
    exact hgrouped
  · rw [List.filter_append, List.filter_append, hnone, hspace]
    exact hgrouped

-----------------------------------------------------------------------------------------
-- The plain form
-----------------------------------------------------------------------------------------

/-- Rounding off places makes a mantissa no longer. -/
theorem dropPlaces_le (mantissa places : Nat) : dropPlaces mantissa places ≤ mantissa := by
  have hpos := Number.tenTo_pos places
  have hless : 2 * mantissa + Number.tenTo places < 2 * Number.tenTo places * (mantissa + 1) := by
    nlinarith
  exact Nat.le_of_lt_succ (Nat.div_lt_of_lt_mul hless)

/-- A rounded amount still has a mantissa that amounts have room for. -/
theorem mantissa_rounded_lt (places : Nat) : (amount.rounded places).1 < mantissaBound := by
  rw [rounded]
  split
  · exact amount.mantissa_lt
  · exact Nat.lt_of_le_of_lt (dropPlaces_le _ _) amount.mantissa_lt

/-- The digits of both sides of the mark are the mantissa together. -/
theorem ofDigits_wholeDigits_append (mantissa scale : Nat)
    : Number.ofDigits (wholeDigits mantissa scale ++ placeDigits mantissa scale) = mantissa := by
  have hwhole : Nat.ofDigitChars 10 (wholeDigits mantissa scale) 0
      = mantissa / Number.tenTo scale :=
    Number.ofDigits_digits _
  have hplaces := ofDigits_placeDigits mantissa scale
  rw [Number.ofDigits] at hplaces ⊢
  rw [Nat.ofDigitChars_append, Nat.ofDigitChars_eq_ofDigitChars_zero, hwhole, hplaces,
    length_placeDigits]
  exact Nat.div_add_mod mantissa (Number.tenTo scale)

/-- The places of money: those of the amount and zeros up to the second. -/
theorem unsignedText_two {mantissa scale : Nat} (h : scale ≤ 2)
    : unsignedText 2 mantissa scale
      = groupDigits (wholeDigits mantissa scale)
        ++ ',' :: (placeDigits mantissa scale ++ List.replicate (2 - scale) '0') := by
  have hplaces : fitPlaces 2 (placeDigits mantissa scale)
      = placeDigits mantissa scale ++ List.replicate (2 - scale) '0' := by
    rw [fitPlaces_of_length_le (by rwa [length_placeDigits]), length_placeDigits]
  have hsome : placeDigits mantissa scale ++ List.replicate (2 - scale) '0' ≠ [] := by
    rw [← List.length_pos_iff, List.length_append, List.length_replicate, length_placeDigits]
    omega
  rw [unsignedText, hplaces, if_neg hsome, List.append_assoc]
  rfl

/-- No digit separates digits. -/
theorem isSeparator_of_isDigit {c : Char} (h : c.isDigit = true) : isSeparator c = false := by
  rw [Bool.eq_false_iff]
  intro hsep
  obtain rfl | rfl : c = ',' ∨ c = '.' := by simpa [isSeparator] using hsep
  · cases h
  · cases h

/-- In groups of digits the dots are the only separators. -/
theorem isSeparator_of_inGroups {text : Text} (h : InGroups text) {c : Char} (hc : c ∈ text)
    : isSeparator c = decide (c = '.') := by
  obtain hdigit | rfl := isDigit_or_dot_of_inGroups h c hc
  · rw [isSeparator_of_isDigit hdigit, eq_comm, decide_eq_false_iff_not]
    exact ne_dot_of_isDigit hdigit
  · rfl

/-- The plain form of money has the dots taken out and a dot for the comma. -/
theorem plainForm_unsignedText (negative : Bool) {mantissa scale : Nat} (h : scale ≤ 2)
    : plainForm ((if negative then ['-'] else []) ++ unsignedText 2 mantissa scale)
      = (if negative then ['-'] else []) ++ (wholeDigits mantissa scale
          ++ '.' :: (placeDigits mantissa scale ++ List.replicate (2 - scale) '0')) := by
  have hwhole := isDigit_of_mem_wholeDigits mantissa scale
  have hgroups := inGroups_groupDigits (wholeDigits_ne_nil mantissa scale) hwhole
  have hsign : ∀ c ∈ (if negative then ['-'] else []), isSeparator c = false := by
    cases negative <;> simp [isSeparator]
  have hbefore : ',' ∉ (if negative then ['-'] else [])
      ++ groupDigits (wholeDigits mantissa scale) := by
    intro hcomma
    obtain hmem | hmem := List.mem_append.mp hcomma
    · cases hsign _ hmem
    · cases isSeparator_of_inGroups hgroups hmem
  have hafter : ∀ c ∈ placeDigits mantissa scale ++ List.replicate (2 - scale) '0',
      isSeparator c = false := by
    rw [List.forall_mem_append]
    constructor
    · exact fun c hc => isSeparator_of_isDigit (isDigit_of_mem_placeDigits _ _ c hc)
    · intro c hc
      rw [List.eq_of_mem_replicate hc]
      rfl
  have hkept : (if negative then ['-'] else []).filter (fun c => !isSeparator c)
      = if negative then ['-'] else [] := by
    cases negative <;> rfl
  have hdots : (groupDigits (wholeDigits mantissa scale)).filter (fun c => !isSeparator c)
      = wholeDigits mantissa scale := by
    refine Eq.trans (List.filter_congr (fun c hc => ?_)) (filter_groupDigits hwhole)
    simp [isSeparator_of_inGroups hgroups hc]
  rw [unsignedText_two h, ← List.append_assoc, plainForm_mark rfl hbefore hafter,
    List.filter_append, hkept, hdots, List.append_assoc]

-----------------------------------------------------------------------------------------
-- Reading back
-----------------------------------------------------------------------------------------

/-- Money that is written with a symbol of which the reader takes no notice is read back as the
amount rounded to two places, a half away from zero.
-/
theorem exists_ofText?_currency {symbol : Text}
    (hsymbol : ∀ c ∈ symbol, c.isDigit = false ∧ c ≠ ',' ∧ c ≠ '.' ∧ c ≠ '-')
    : ∃ back, ofText? (amount.currency symbol) = some back
        ∧ back.value = roundAway 2 amount.value := by
  have hpassed : ∀ c ∈ symbol, isPart c = false := by simpa [isPart, and_assoc] using hsymbol
  have hscale := amount.scale_rounded_le 2
  have hroom : (placeDigits (amount.rounded 2).1 (amount.rounded 2).2).length ≤ greatestScale := by
    rw [length_placeDigits]
    exact Nat.le_trans hscale (by decide)
  obtain ⟨back, hback, hvalue⟩ := exists_ofPlain? (wholeDigits_ne_nil _ _)
    (isDigit_of_mem_wholeDigits _ _) (isDigit_of_mem_placeDigits _ _)
    (by rw [ofDigits_wholeDigits_append]; exact amount.mantissa_rounded_lt 2) hroom
    (amount.writtenNegative 2) (2 - (amount.rounded 2).2)
  rw [ofDigits_wholeDigits_append, length_placeDigits, ← amount.roundAway_eq] at hvalue
  have hdigit : (amount.grouped 2 2).any Char.isDigit = true :=
    any_isDigit_of_writtenForm (amount.writtenForm_grouped (Nat.le_refl 2))
  refine ⟨back, ?_, hvalue⟩
  rw [ofText?, amount.filter_currency hpassed]
  simp only [hdigit, if_true]
  rw [grouped_eq, plainForm_unsignedText _ hscale, hback]

/-- The negative of the largest amount: there is no room for its written places. -/
def lowest : Amount :=
  ⟨true, mantissaBound - 1, 0, by decide, by decide, by decide⟩

/-- The lowest amount of all is written in full and read back rounded. -/
theorem exists_ofText?_currency_lowest
    : (∀ c ∈ "R$".toList, c.isDigit = false ∧ c ≠ ',' ∧ c ≠ '.' ∧ c ≠ '-')
      ∧ lowest.currency "R$" = "-R$ 79.228.162.514.264.337.593.543.950.335,00"
      ∧ ∃ back, ofText? "-R$ 79.228.162.514.264.337.593.543.950.335,00" = some back
          ∧ back.value = roundAway 2 lowest.value := by
  have hsymbol : ∀ c ∈ "R$".toList, c.isDigit = false ∧ c ≠ ',' ∧ c ≠ '.' ∧ c ≠ '-' := by simp
  have htext : lowest.currency "R$" = "-R$ 79.228.162.514.264.337.593.543.950.335,00" := by decide
  exact ⟨hsymbol, htext, htext ▸ lowest.exists_ofText?_currency hsymbol⟩

end Amount

end LeasePapers
