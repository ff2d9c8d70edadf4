import Mathlib.Data.List.Basic
import LeasePapers.Calendar.Iso
import LeasePapers.Proofs.Calendar.Local

/-! Dates in ISO order and their local form. A text is kept or brought into local form, where it
stays; and every date that is written in ISO order with all its digits is brought into local form,
also with blanks around it and with a time behind it.
-/

namespace LeasePapers.Calendar

-----------------------------------------------------------------------------------------
-- Reading in ISO order
-----------------------------------------------------------------------------------------

section

variable {digits : Text} (hdigits : ∀ c ∈ digits, c.isDigit = true)

include hdigits

/-- As many digits as may be read are read, whatever follows them. -/
theorem leadingNumber?_append {most : Nat} (hpos : 0 < most) (hlength : digits.length = most)
    (rest : Text)
    : leadingNumber? most (digits ++ rest) = some (Number.ofDigits digits, rest) := by
  have hne : digits ≠ [] := List.length_pos_iff.mp (hlength ▸ hpos)
  have hfound : ((digits ++ rest).take most).takeWhile Char.isDigit = digits := by
    rw [← hlength, List.take_left, List.takeWhile_eq_self_iff]
    exact hdigits
  rw [leadingNumber?, hfound, if_neg hne, List.drop_left]

/-- A text that begins with digits has no blank in front. -/
theorem trimStart_of_digits {text : Text} (hne : digits ≠ []) (hlead : digits <+: text)
    : Text.trimStart text = text := by
  obtain ⟨rest, rfl⟩ := hlead
  refine Text.trimStart_eq_self (fun c hc => ?_)
  rw [List.head?_append_of_ne_nil _ hne] at hc
  exact Text.isBlank_of_class (p := Char.isDigit) (by decide)
    (hdigits c (List.mem_of_mem_head? hc))

/-- Four digits are read as a year. -/
theorem isoYear?_append (hlength : digits.length = 4) (rest : Text)
    : isoYear? (digits ++ rest) = some ((Number.ofDigits digits : Int), rest) := by
  have hread := leadingNumber?_append hdigits (by decide) hlength rest
  obtain ⟨c, others, rfl⟩ := List.exists_cons_of_length_eq_add_one hlength
  have hc := hdigits c List.mem_cons_self
  rw [isoYear?, trimStart_of_digits hdigits (List.cons_ne_nil c others) (List.prefix_append _ _)]
  split
  · rename_i hminus
    obtain ⟨rfl, -⟩ := List.cons.inj hminus
    cases hc
  · rename_i hplus
    obtain ⟨rfl, -⟩ := List.cons.inj hplus
    cases hc
  · rw [hread]
    rfl

/-- A hyphen and two digits are read as a number. -/
theorem hyphenNumber?_append (hlength : digits.length = 2) (rest : Text)
    : hyphenNumber? ('-' :: (digits ++ rest)) = some (Number.ofDigits digits, rest) := by
  have hne : digits ≠ [] := by
    rintro rfl
    cases hlength
  rw [hyphenNumber?, trimStart_of_digits hdigits hne (List.prefix_append _ _)]
  exact leadingNumber?_append hdigits (by decide) hlength rest

end

namespace Date

/-- A date in ISO order with all digits of its year, which has four, its month and its day. -/
def toIso (date : Date) : Text :=
  Number.paddedDigits 4 date.year.toNat ++ '-' :: (Number.paddedDigits 2 date.month
    ++ '-' :: Number.paddedDigits 2 date.day)

/-- The year has four digits in ISO order. -/
def HasIsoYear (date : Date) : Prop :=
  0 ≤ date.year ∧ date.year ≤ 9999

variable {date : Date}

/-- A year of the ISO form has four digits. -/
theorem length_isoYear (h : date.HasIsoYear)
    : (Number.paddedDigits 4 date.year.toNat).length = 4 := by
  refine Number.length_paddedDigits_of_lt (by decide) ?_
  change date.year.toNat < 10000
  have hyear := h.2
  omega

/-- The ISO form of a date is read back. -/
theorem ofIso?_toIso (h : date.HasIsoYear) : ofIso? date.toIso = some date := by
  have hdigits : ∀ width n, ∀ c ∈ Number.paddedDigits width n, c.isDigit = true :=
    fun _ _ _ => Number.isDigit_of_mem_paddedDigits
  have hyear := isoYear?_append (hdigits 4 date.year.toNat) (length_isoYear h)
    ('-' :: (Number.paddedDigits 2 date.month ++ '-' :: Number.paddedDigits 2 date.day))
  have hmonth := hyphenNumber?_append (hdigits 2 date.month) date.length_monthDigits
    ('-' :: Number.paddedDigits 2 date.day)
  have hday := hyphenNumber?_append (hdigits 2 date.day) date.length_dayDigits []
  rw [List.append_nil] at hday
  rw [ofIso?, toIso, hyear]
  simp only [Option.bind_eq_bind, Option.bind_some, hmonth, hday, Number.ofDigits_paddedDigits,
    if_true, Int.toNat_of_nonneg h.1]
  exact ofParts?_eq_some_iff.mpr ⟨rfl, rfl, rfl⟩

end Date

-----------------------------------------------------------------------------------------
-- The date in front of a time
-----------------------------------------------------------------------------------------

/-- A text is cut off by its size, by induction on the text. -/
theorem cutAtByte_append (text more : Text)
    : cutAtByte (Text.byteSize text) (text ++ more) = some (text, more) := by
  induction text with
  | nil => rw [Text.byteSize, List.nil_append, cutAtByte]
  | cons c rest ih =>
      obtain ⟨size, hsize⟩ := Nat.exists_eq_add_one.mpr c.utf8Size_pos
      rw [Text.byteSize, List.cons_append, hsize, Nat.add_right_comm, cutAtByte, if_pos (by omega),
        hsize, Nat.add_right_comm, Nat.add_sub_cancel_left, ih]
      rfl

/-- Characters of one byte each are counted by the length, by induction on the text. -/
theorem byteSize_of_ascii {text : Text} (h : ∀ c ∈ text, c.utf8Size = 1)
    : Text.byteSize text = text.length := by
  induction text with
  | nil => rfl
  | cons c rest ih =>
      obtain ⟨hc, hrest⟩ := List.forall_mem_cons.mp h
      rw [Text.byteSize, hc, ih hrest, List.length_cons, Nat.add_comm]

/-- A digit is one byte. -/
theorem utf8Size_of_isDigit {c : Char} (h : c.isDigit = true) : c.utf8Size = 1 := by
  rw [Char.utf8Size_eq_one_iff]
  simp only [Char.isDigit, Bool.and_eq_true, decide_eq_true_eq] at h
  exact UInt32.le_trans h.2 (by decide)

/-- Behind a date there is nothing, or a time after a `T` or a space. -/
def MayFollowDate (suffix : Text) : Prop :=
  ∀ c ∈ suffix.head?, c = 'T' ∨ c = ' '

/-- A head of ten bytes is cut off from what may follow a date. -/
theorem isoHead?_append {head suffix : Text} (hsize : Text.byteSize head = 10)
    (hsuffix : MayFollowDate suffix)
    : isoHead? (head ++ suffix) = some head := by
  rw [isoHead?, ← hsize, cutAtByte_append]
  cases suffix with
  | nil => rfl
  | cons c rest => obtain rfl | rfl := hsuffix c rfl <;> rfl

/-- Blanks at the end of what follows a date may be taken away. -/
theorem MayFollowDate.trimEnd {suffix : Text} (h : MayFollowDate suffix)
    : MayFollowDate (Text.trimEnd suffix) := by
  obtain ⟨blanks, hblanks⟩ := Text.prefix_trimEnd suffix
  intro c hc
  refine h c ?_
  rw [← hblanks, List.head?_append, Option.mem_def.mp hc]
  rfl

namespace Date

/-- No local date begins with three digits. -/
theorem ofLocal?_of_digits {text digits : Text} (hleast : 3 ≤ digits.length)
    (hdigits : ∀ c ∈ digits, c.isDigit = true) (hlead : digits <+: Text.trim text)
    : ofLocal? text = none := by
  obtain ⟨rest, htext⟩ := hlead
  refine Option.eq_none_iff_forall_ne_some.mpr (fun date hdate => ?_)
  obtain ⟨dayText, monthText, yearText, hspelled, hday, -, -⟩ := spells_of_ofLocal? hdate
  have hmost := hday.most
  -- The first stroke stands among the digits.
  have hstroke : (digits ++ rest)[dayText.length]? = some '/' := by
    rw [htext, hspelled, List.getElem?_append_right le_rfl, Nat.sub_self]
    rfl
  rw [List.getElem?_append_left (by omega)] at hstroke
  cases hdigits _ (List.mem_of_getElem? hstroke)

variable {date : Date}

/-- The ISO form has digits and hyphens alone. -/
theorem isDigit_or_hyphen_of_mem_toIso {c : Char} (h : c ∈ date.toIso)
    : c.isDigit = true ∨ c = '-' := by
  simp only [toIso, List.mem_append, List.mem_cons] at h
  rcases h with h | rfl | h | rfl | h
  · exact .inl (Number.isDigit_of_mem_paddedDigits h)
  · exact .inr rfl
  · exact .inl (Number.isDigit_of_mem_paddedDigits h)
  · exact .inr rfl
  · exact .inl (Number.isDigit_of_mem_paddedDigits h)

/-- The ISO form takes ten bytes. -/
theorem byteSize_toIso (h : date.HasIsoYear) : Text.byteSize date.toIso = 10 := by
  rw [byteSize_of_ascii]
  · simp [toIso, length_isoYear h, length_monthDigits, length_dayDigits]
  · intro c hc
    obtain hdigit | rfl := isDigit_or_hyphen_of_mem_toIso hc
    · exact utf8Size_of_isDigit hdigit
    · decide

/-- The ISO form has no blank. -/
theorem not_blank_of_mem_toIso {c : Char} (h : c ∈ date.toIso) : Text.isBlank c = false := by
  refine Text.isBlank_of_class (p := fun c => c.isDigit || c == '-') (by decide) ?_
  simpa using isDigit_or_hyphen_of_mem_toIso h

/-- The ISO form begins with the digits of its year. -/
theorem isoYear_prefix (date : Date) (suffix : Text)
    : Number.paddedDigits 4 date.year.toNat <+: date.toIso ++ suffix :=
  (List.prefix_append _ _).trans (List.prefix_append _ _)

/-- What is trimmed around an ISO form stands behind it. -/
theorem trim_toIso_append (suffix : Text)
    : Text.trim (date.toIso ++ suffix) = date.toIso ++ Text.trimEnd suffix := by
  have hstart : Text.trimStart (date.toIso ++ suffix) = date.toIso ++ suffix := by
    refine trimStart_of_digits (fun _ => Number.isDigit_of_mem_paddedDigits) ?_
      (date.isoYear_prefix suffix)
    exact List.length_pos_iff.mp
      (Nat.lt_of_lt_of_le (by decide) (Number.le_length_paddedDigits 4 _))
  rw [Text.trim, hstart]
  exact Text.trimEnd_append suffix
    (fun c hc => not_blank_of_mem_toIso (List.mem_of_getLast? hc))

end Date

-----------------------------------------------------------------------------------------
-- Local form
-----------------------------------------------------------------------------------------

/-- A text is localized to a date, or kept as it is. -/
theorem localize_cases (value : Text)
    : localize value = value ∨ ∃ date : Date, localize value = date.toLocal := by
  unfold localize
  dsimp only
  split
  · exact .inl rfl
  · split
    · rename_i date _
      exact .inr ⟨date, rfl⟩
    · exact .inl rfl

/-- The local form of a date is kept. -/
theorem localize_toLocal (date : Date) : localize date.toLocal = date.toLocal := by
  rw [localize, date.trim_toLocal, date.ofLocal?_of_toLocal]
  rfl

/-- Localizing a text twice is localizing it once. -/
theorem localize_localize (value : Text) : localize (localize value) = localize value := by
  obtain hkept | ⟨date, hdate⟩ := localize_cases value
  · rw [hkept, hkept]
  · rw [hdate, localize_toLocal]

/-- Nothing is brought into a form that is not read as a local date. -/
theorem localize_kept_or_local (value : Text)
    : localize value = value ∨ (Date.ofLocal? (localize value)).isSome = true := by
  obtain hkept | ⟨date, hdate⟩ := localize_cases value
  · exact .inl hkept
  · rw [hdate, date.ofLocal?_of_toLocal]
    exact .inr rfl

/-- A date in ISO order is read behind blanks, and in front of a time and of blanks. -/
theorem localize_toIso {date : Date} {before suffix after : Text} (hyear : date.HasIsoYear)
    (hbefore : ∀ c ∈ before, Text.isBlank c = true) (hsuffix : MayFollowDate suffix)
    (hafter : ∀ c ∈ after, Text.isBlank c = true)
    : localize (before ++ (date.toIso ++ suffix) ++ after) = date.toLocal := by
  have htrim : Text.trim (before ++ (date.toIso ++ suffix) ++ after)
      = date.toIso ++ Text.trimEnd suffix := by
    rw [Text.trim_between _ hbefore hafter, Date.trim_toIso_append]
  have hyearDigits : ∀ c ∈ Number.paddedDigits 4 date.year.toNat, c.isDigit = true :=
    fun _ => Number.isDigit_of_mem_paddedDigits
  have hnone : Date.ofLocal? (date.toIso ++ Text.trimEnd suffix) = none := by
    refine Date.ofLocal?_of_digits ?_ hyearDigits ?_
    · exact Nat.le_of_lt (Number.le_length_paddedDigits 4 _)
    · rw [← htrim, Text.trim_trim, htrim]
      exact date.isoYear_prefix _
  rw [localize, htrim, hnone]
  simp only [Option.isSome_none, isoHead?_append (Date.byteSize_toIso hyear) hsuffix.trimEnd,
    Option.bind_some, Date.ofIso?_toIso hyear]
  rfl

/-- A text is kept or brought into a form that is read as a local date, and what has been brought
into local form once stays as it is. Every date of the years 0 to 9999 is brought from ISO order
into local form, whatever blanks stand around it and whether or not a time follows it.
-/
theorem localize_stable_exact
    : (∀ value, localize value = value ∨ (Date.ofLocal? (localize value)).isSome = true)
      ∧ (∀ value, localize (localize value) = localize value)
      ∧ ∀ (date : Date) (before suffix after : Text), 0 ≤ date.year → date.year ≤ 9999
        → (∀ c ∈ before, Text.isBlank c = true) → MayFollowDate suffix
        → (∀ c ∈ after, Text.isBlank c = true)
        → localize (before ++ (date.toIso ++ suffix) ++ after) = date.toLocal := by
  refine ⟨localize_kept_or_local, localize_localize, ?_⟩
  intro date before suffix after hleast hmost hbefore hsuffix hafter
  exact localize_toIso ⟨hleast, hmost⟩ hbefore hsuffix hafter

/-- A leap day. -/
def leapDay : Date :=
  ⟨2024, 2, 29, by decide⟩

/-- A leap day with a time and blanks around it is localized. -/
theorem localize_stable_exact_leapDay
    : 0 ≤ leapDay.year ∧ leapDay.year ≤ 9999 ∧ (∀ c ∈ "\t ".toList, Text.isBlank c = true)
      ∧ MayFollowDate "T10:30:00Z" ∧ (∀ c ∈ "\n".toList, Text.isBlank c = true)
      ∧ localize "\t 2024-02-29T10:30:00Z\n" = "29/02/2024" := by
  have hbefore : ∀ c ∈ "\t ".toList, Text.isBlank c = true := List.all_eq_true.mp (by decide)
  have hsuffix : MayFollowDate "T10:30:00Z" := by simp [MayFollowDate]
  have hafter : ∀ c ∈ "\n".toList, Text.isBlank c = true := List.all_eq_true.mp (by decide)
  have hlocal : leapDay.toLocal = "29/02/2024" := by decide
  have hiso : "\t ".toList ++ (leapDay.toIso ++ "T10:30:00Z") ++ "\n"
      = "\t 2024-02-29T10:30:00Z\n" := by
    decide
  rw [← hlocal, ← hiso]
  exact ⟨by decide, by decide, hbefore, hsuffix, hafter,
    localize_stable_exact.2.2 leapDay _ _ _ (by decide) (by decide) hbefore hsuffix hafter⟩

end LeasePapers.Calendar
