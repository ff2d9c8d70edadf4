import LeasePapers.Proofs.Amount.Currency

/-! Notations of a decimal. A point or a comma is the mark, and the other of the two may group the
digits before it in threes. The reader tells the mark by the number and the order of the separators;
however many groups there are, it finds the same digits before and behind the mark.
-/

namespace LeasePapers

-----------------------------------------------------------------------------------------
-- Groups
-----------------------------------------------------------------------------------------

/-- Digits with a separator between groups of three, counted from the right. -/
def groupDigitsBy (separator : Char) (digits : Text) : Text :=
  (groupDigits digits).map (fun c => if c = '.' then separator else c)

section

variable {separator : Char} {digits : Text} (hdigits : ∀ c ∈ digits, c.isDigit = true)

include hdigits

/-- Grouped digits are digits and separators. -/
theorem isDigit_or_eq_of_mem_groupDigitsBy (hne : digits ≠ [])
    : ∀ c ∈ groupDigitsBy separator digits, c.isDigit = true ∨ c = separator := by
  intro c hc
  obtain ⟨d, hd, rfl⟩ := List.mem_map.mp hc
  obtain hdigit | rfl := isDigit_or_dot_of_inGroups (inGroups_groupDigits hne hdigits) d hd
  · rw [if_neg (ne_dot_of_isDigit hdigit)]
    exact .inl hdigit
  · exact .inr (if_pos rfl)

/-- Without the separators the digits are left. -/
theorem filter_groupDigitsBy (hseparator : Amount.isSeparator separator = true) (hne : digits ≠ [])
    : (groupDigitsBy separator digits).filter (fun c => !Amount.isSeparator c) = digits := by
  have hkept : ∀ c ∈ groupDigits digits,
      (!Amount.isSeparator (if c = '.' then separator else c)) = decide (c ≠ '.') := by
    intro c hc
    obtain hdigit | rfl := isDigit_or_dot_of_inGroups (inGroups_groupDigits hne hdigits) c hc
    · have hdot := ne_dot_of_isDigit hdigit
      simp [hdot, Amount.isSeparator_of_isDigit hdigit]
    · simp [hseparator]
  have hsame : ∀ c ∈ digits, (if c = '.' then separator else c) = c :=
    fun c hc => if_neg (ne_dot_of_isDigit (hdigits c hc))
  rw [groupDigitsBy, List.filter_map, Function.comp_def, List.filter_congr hkept,
    filter_groupDigits hdigits, List.map_congr_left hsame, List.map_id']

end

namespace Amount

-----------------------------------------------------------------------------------------
-- Four notations
-----------------------------------------------------------------------------------------

/-- The notations of a decimal: with a point, with a comma, and with groups before either of them
that the other one parts. -/
inductive Notated (whole places : Text) : Text → Prop
  | point : Notated whole places (whole ++ '.' :: places)
  | comma : Notated whole places (whole ++ ',' :: places)
  | groupedByDots : Notated whole places (groupDigitsBy '.' whole ++ ',' :: places)
  | groupedByCommas : Notated whole places (groupDigitsBy ',' whole ++ '.' :: places)

/-- There is nothing in the text that can belong to an amount. -/
def Unread (text : Text) : Prop :=
  ∀ c ∈ text, c.isDigit = false ∧ c ≠ ',' ∧ c ≠ '.' ∧ c ≠ '-'

/-- Nothing of what is not read is part of an amount. -/
theorem filter_isPart_of_unread {text : Text} (h : Unread text) : text.filter isPart = [] := by
  refine List.filter_eq_nil_iff.mpr (fun c hc => ?_)
  obtain ⟨hdigit, hcomma, hdot, hhyphen⟩ := h c hc
  simp [isPart, hdigit, hcomma, hdot, hhyphen]

/-- Separators are part of an amount. -/
theorem isPart_of_isSeparator {c : Char} (h : isSeparator c = true) : isPart c = true := by
  obtain rfl | rfl : c = ',' ∨ c = '.' := by simpa [isSeparator] using h
  · rfl
  · rfl

/-- The sign of a number. -/
def signText (negative : Bool) : Text :=
  if negative then ['-'] else []

section

variable {whole places text : Text} (hne : whole ≠ []) (hwhole : ∀ c ∈ whole, c.isDigit = true)

include hne hwhole

/-- Every notation is a mark between the digits before it, which only the other separator can part,
and the places. -/
theorem Notated.exists_mark (h : Notated whole places text)
    : ∃ mark before, text = before ++ mark :: places ∧ isSeparator mark = true ∧ mark ∉ before
        ∧ before.filter (fun c => !isSeparator c) = whole ∧ ∀ c ∈ before, isPart c = true := by
  have hplain : whole.filter (fun c => !isSeparator c) = whole :=
    List.filter_eq_self.mpr (fun c hc => by simp [isSeparator_of_isDigit (hwhole c hc)])
  have hparts : ∀ c ∈ whole, isPart c = true := fun c hc => isPart_of_isDigit (hwhole c hc)
  have hnot : ∀ mark, isSeparator mark = true → mark ∉ whole := by
    intro mark hmark hmem
    rw [isSeparator_of_isDigit (hwhole mark hmem)] at hmark
    cases hmark
  have hgroups : ∀ mark separator, isSeparator mark = true → isSeparator separator = true →
      mark ≠ separator → mark ∉ groupDigitsBy separator whole
        ∧ (groupDigitsBy separator whole).filter (fun c => !isSeparator c) = whole
        ∧ ∀ c ∈ groupDigitsBy separator whole, isPart c = true := by
    intro mark separator hmark hseparator hother
    have hmem : ∀ c ∈ groupDigitsBy separator whole, c.isDigit = true ∨ c = separator :=
      isDigit_or_eq_of_mem_groupDigitsBy hwhole hne
    refine ⟨fun hc => ?_, filter_groupDigitsBy hwhole hseparator hne, fun c hc => ?_⟩
    · obtain hdigit | heq := hmem mark hc
      · rw [isSeparator_of_isDigit hdigit] at hmark
        cases hmark
      · exact hother heq
    · obtain hdigit | rfl := hmem c hc
      · exact isPart_of_isDigit hdigit
      · exact isPart_of_isSeparator hseparator
  cases h with
  | point => exact ⟨'.', whole, rfl, rfl, hnot '.' rfl, hplain, hparts⟩
  | comma => exact ⟨',', whole, rfl, rfl, hnot ',' rfl, hplain, hparts⟩
  | groupedByDots => exact ⟨',', _, rfl, rfl, hgroups ',' '.' rfl rfl (by decide)⟩
  | groupedByCommas => exact ⟨'.', _, rfl, rfl, hgroups '.' ',' rfl rfl (by decide)⟩

/-- What is read of a notation is its plain form, whatever stands around it and behind its sign. -/
theorem ofText?_of_notated {before between after : Text} (negative : Bool)
    (hplaces : ∀ c ∈ places, c.isDigit = true) (h : Notated whole places text)
    (hbefore : Unread before) (hbetween : Unread between) (hafter : Unread after)
    : ofText? (before ++ signText negative ++ between ++ text ++ after)
      = ofPlain? (signText negative ++ (whole ++ '.' :: places)) := by
  obtain ⟨mark, grouped, rfl, hmark, hnot, hkept, hparts⟩ := h.exists_mark hne hwhole
  have hsign : ∀ c ∈ signText negative, c = '-' := by cases negative <;> simp [signText]
  have hread : (before ++ signText negative ++ between ++ (grouped ++ mark :: places)
        ++ after).filter isPart
      = (signText negative ++ grouped) ++ mark :: places := by
    have hkeptSign : (signText negative).filter isPart = signText negative :=
      List.filter_eq_self.mpr (fun c hc => by rw [hsign c hc]; rfl)
    have hkeptDigits : (grouped ++ mark :: places).filter isPart = grouped ++ mark :: places := by
      refine List.filter_eq_self.mpr ?_
      rw [List.forall_mem_append, List.forall_mem_cons]
      exact ⟨hparts, isPart_of_isSeparator hmark, fun c hc => isPart_of_isDigit (hplaces c hc)⟩
    simp only [List.filter_append, filter_isPart_of_unread hbefore, filter_isPart_of_unread hbetween,
      filter_isPart_of_unread hafter, hkeptSign] at hkeptDigits ⊢
    rw [hkeptDigits]
    simp
  have hdigit : ((signText negative ++ grouped) ++ mark :: places).any Char.isDigit = true := by
    obtain ⟨c, rest, rfl⟩ := List.exists_cons_of_ne_nil hne
    have hc : c ∈ grouped.filter (fun c => !isSeparator c) := hkept ▸ List.mem_cons_self
    rw [List.any_append, List.any_append,
      List.any_eq_true.mpr ⟨c, (List.mem_filter.mp hc).1, hwhole c List.mem_cons_self⟩]
    simp
  have hnotSign : mark ∉ signText negative := by
    intro hc
    rw [hsign mark hc] at hmark
    cases hmark
  have hkeptSign : (signText negative).filter (fun c => !isSeparator c) = signText negative :=
    List.filter_eq_self.mpr (fun c hc => by rw [hsign c hc]; rfl)
  rw [ofText?, hread]
  simp only [hdigit, if_true]
  rw [plainForm_mark hmark (by simp [hnot, hnotSign])
    (fun c hc => isSeparator_of_isDigit (hplaces c hc)), List.filter_append, hkept, hkeptSign,
    List.append_assoc]

/-- A number is read alike in all of its notations, with the sign in front and whatever stands
around it, and where its digits fit it is read as the amount of its value.
-/
theorem ofText?_notated {before between after : Text} (negative : Bool)
    (hplaces : ∀ c ∈ places, c.isDigit = true) (h : Notated whole places text)
    (hbefore : Unread before) (hbetween : Unread between) (hafter : Unread after)
    : ofText? (before ++ signText negative ++ between ++ text ++ after)
        = ofText? (signText negative ++ (whole ++ '.' :: places))
      ∧ (Number.ofDigits (whole ++ places) < mantissaBound → places.length ≤ greatestScale →
          ∃ amount, ofText? (before ++ signText negative ++ between ++ text ++ after) = some amount
            ∧ amount.value
              = signedValue negative (Number.ofDigits (whole ++ places)) places.length) := by
  have hread := ofText?_of_notated hne hwhole negative hplaces h hbefore hbetween hafter
  have hnone : Unread [] := fun c hc => nomatch hc
  have hplain := ofText?_of_notated hne hwhole negative hplaces .point hnone hnone hnone
  simp only [List.nil_append, List.append_nil] at hplain
  refine ⟨hread.trans hplain.symm, fun hfits hscale => ?_⟩
  obtain ⟨amount, hamount, hvalue⟩ := exists_ofPlain? hne hwhole hplaces hfits hscale negative 0
  rw [List.replicate_zero, List.append_nil] at hamount
  exact ⟨amount, hread.trans hamount, hvalue⟩

end

/-- An amount among words is read as the same amount in its shortest form. -/
theorem ofText?_notated_groupedByDots
    : "1234567".toList ≠ [] ∧ (∀ c ∈ "1234567".toList, c.isDigit = true)
      ∧ (∀ c ∈ "50".toList, c.isDigit = true) ∧ Notated "1234567" "50" "1.234.567,50"
      ∧ Unread "Valor: " ∧ Unread "R$ " ∧ Unread " ao ano"
      ∧ ofText? "Valor: -R$ 1.234.567,50 ao ano" = ofText? "-1234567.50"
      ∧ ∃ amount, ofText? "Valor: -R$ 1.234.567,50 ao ano" = some amount
          ∧ amount.value = -1234567.5 := by
  have hne : "1234567".toList ≠ [] := by decide
  have hwhole : ∀ c ∈ "1234567".toList, c.isDigit = true := by simp
  have hplaces : ∀ c ∈ "50".toList, c.isDigit = true := by simp
  have hnotated : Notated "1234567" "50" "1.234.567,50" := .groupedByDots
  have hbefore : Unread "Valor: " := by simp [Unread]
  have hbetween : Unread "R$ " := by simp [Unread]
  have hafter : Unread " ao ano" := by simp [Unread]
  have hvalue : signedValue true (Number.ofDigits "123456750") 2 = -1234567.5 := by
    have hdigits : Number.ofDigits "123456750" = 123456750 := by decide
    rw [signedValue, hdigits]
    norm_num
  obtain ⟨hsame, hread⟩ :=
    ofText?_notated hne hwhole true hplaces hnotated hbefore hbetween hafter
  obtain ⟨amount, hamount, he⟩ := hread (by decide) (by decide)
  exact ⟨hne, hwhole, hplaces, hnotated, hbefore, hbetween, hafter, hsame, amount, hamount,
    he.trans hvalue⟩

end Amount

end LeasePapers
