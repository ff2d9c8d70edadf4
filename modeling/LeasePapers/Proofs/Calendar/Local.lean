import LeasePapers.Calendar.Local
import LeasePapers.Proofs.Calendar.Date
import LeasePapers.Proofs.Number.Digits
import LeasePapers.Proofs.Text.Words

/-! Dates in local form. What a text has to look like to be read as a date is stated apart from the
reader: the reader accepts these texts and no others, and what is written for a date is one of them.
-/

namespace LeasePapers.Calendar

-----------------------------------------------------------------------------------------
-- Numbers and years
-----------------------------------------------------------------------------------------

/-- One or two digits spell a number. -/
structure SpellsNumber (text : Text) (n : Nat) : Prop where
  least : 1 ≤ text.length
  most : text.length ≤ 2
  digits : ∀ c ∈ text, c.isDigit = true
  value : Number.ofDigits text = n

/-- Four digits spell a year, and so do a sign and at least four digits. -/
inductive SpellsYear : Text → Int → Prop
  | plain {digits : Text} (four : digits.length = 4) (all : ∀ c ∈ digits, c.isDigit = true)
    : SpellsYear digits (Number.ofDigits digits)
  | positive {digits : Text} (least : 4 ≤ digits.length) (all : ∀ c ∈ digits, c.isDigit = true)
    : SpellsYear ('+' :: digits) (Number.ofDigits digits)
  | negative {digits : Text} (least : 4 ≤ digits.length) (all : ∀ c ∈ digits, c.isDigit = true)
    : SpellsYear ('-' :: digits) (-(Number.ofDigits digits : Int))

/-- The reader of days and months reads what spells them. -/
theorem shortNumber?_eq_some_iff {text : Text} {n : Nat}
    : shortNumber? text = some n ↔ SpellsNumber text n := by
  rw [shortNumber?, Option.ite_some_none_eq_some]
  constructor
  · rintro ⟨⟨hne, hmost, hdigits⟩, hvalue⟩
    exact ⟨List.length_pos_iff.mpr hne, hmost, List.all_eq_true.mp hdigits, hvalue⟩
  · rintro ⟨hleast, hmost, hdigits, hvalue⟩
    exact ⟨⟨List.length_pos_iff.mp hleast, hmost, List.all_eq_true.mpr hdigits⟩, hvalue⟩

/-- Where a digit comes first there is no sign. -/
theorem localYear?_of_digit {c : Char} {rest : Text} (h : c.isDigit = true)
    : localYear? (c :: rest)
      = if (c :: rest).length = 4 ∧ Text.allDigits (c :: rest)
        then some (Number.ofDigits (c :: rest) : Int) else none := by
  rw [localYear?]
  · rintro _ ⟨⟩
    cases h
  · rintro _ ⟨⟩
    cases h

/-- The reader of years reads what spells them. -/
theorem localYear?_eq_some_iff {text : Text} {year : Int}
    : localYear? text = some year ↔ SpellsYear text year := by
  constructor
  · intro h
    unfold localYear? at h
    split at h
    · obtain ⟨⟨hleast, hdigits⟩, rfl⟩ := Option.ite_some_none_eq_some.mp h
      exact .positive hleast (List.all_eq_true.mp hdigits)
    · obtain ⟨⟨hleast, hdigits⟩, rfl⟩ := Option.ite_some_none_eq_some.mp h
      exact .negative hleast (List.all_eq_true.mp hdigits)
    · obtain ⟨⟨hfour, hdigits⟩, rfl⟩ := Option.ite_some_none_eq_some.mp h
      exact .plain hfour (List.all_eq_true.mp hdigits)
  · intro h
    cases h with
    | plain four all =>
        obtain ⟨c, rest, rfl⟩ := List.exists_cons_of_length_eq_add_one four
        rw [localYear?_of_digit (all c List.mem_cons_self)]
        exact if_pos ⟨four, List.all_eq_true.mpr all⟩
    | positive least all => exact if_pos ⟨least, List.all_eq_true.mpr all⟩
    | negative least all => exact if_pos ⟨least, List.all_eq_true.mpr all⟩

-----------------------------------------------------------------------------------------
-- Reading
-----------------------------------------------------------------------------------------

/-- Day, month and year between strokes spell a date, whether it exists or not. -/
def SpellsLocal (text : Text) (year : Int) (month day : Nat) : Prop :=
  ∃ dayText monthText yearText, text = dayText ++ '/' :: (monthText ++ '/' :: yearText)
    ∧ SpellsNumber dayText day ∧ SpellsNumber monthText month ∧ SpellsYear yearText year

/-- Whether a character may stand in a number or a year. -/
def mayStandInNumber (c : Char) : Bool :=
  c.isDigit || c == '+' || c == '-'

/-- What spells a number may stand in one. -/
theorem SpellsNumber.chars {text : Text} {n : Nat} (h : SpellsNumber text n)
    : ∀ c ∈ text, mayStandInNumber c = true := by
  intro c hc
  simp [mayStandInNumber, h.digits c hc]

/-- What spells a year may stand in a number. -/
theorem SpellsYear.chars {text : Text} {year : Int} (h : SpellsYear text year)
    : ∀ c ∈ text, mayStandInNumber c = true := by
  have hdigits : ∀ {digits : Text}, (∀ c ∈ digits, c.isDigit = true)
      → ∀ c ∈ digits, mayStandInNumber c = true := by
    intro digits all c hc
    simp [mayStandInNumber, all c hc]
  cases h with
  | plain _ all => exact hdigits all
  | positive _ all => exact List.forall_mem_cons.mpr ⟨by decide, hdigits all⟩
  | negative _ all => exact List.forall_mem_cons.mpr ⟨by decide, hdigits all⟩

/-- What may stand in a number is no stroke. -/
theorem not_stroke_of_chars {text : Text} (h : ∀ c ∈ text, mayStandInNumber c = true)
    : ∀ c ∈ text, (c == '/') = false := by
  intro c hc
  rw [beq_eq_false_iff_ne]
  rintro rfl
  cases h _ hc

/-- No blanks stand in a spelled date. -/
theorem SpellsLocal.trim_eq {text : Text} {year : Int} {month day : Nat}
    (h : SpellsLocal text year month day)
    : Text.trim text = text := by
  obtain ⟨dayText, monthText, yearText, rfl, hday, hmonth, hyear⟩ := h
  have hblank : ∀ {part : Text}, (∀ c ∈ part, mayStandInNumber c = true)
      → ∀ c ∈ part, Text.isBlank c = false :=
    fun hchars c hc => Text.isBlank_of_class (by decide) (hchars c hc)
  refine Text.trim_of_not_blank ?_
  simp only [List.forall_mem_append, List.forall_mem_cons]
  exact ⟨hblank hday.chars, by decide, hblank hmonth.chars, by decide, hblank hyear.chars⟩

namespace Date

/-- A text that spells a date is read by the parts it spells. -/
theorem ofLocal?_of_spells {text : Text} {year : Int} {month day : Nat}
    (h : SpellsLocal (Text.trim text) year month day)
    : ofLocal? text = ofParts? year month day := by
  obtain ⟨dayText, monthText, yearText, htext, hday, hmonth, hyear⟩ := h
  have hpieces : Text.pieces (· == '/') (Text.trim text) = [dayText, monthText, yearText] := by
    rw [htext, Text.pieces_append_cut _ _ (by decide), Text.pieces_append_cut _ _ (by decide),
      Text.pieces_of_not_cut (not_stroke_of_chars hday.chars),
      Text.pieces_of_not_cut (not_stroke_of_chars hmonth.chars),
      Text.pieces_of_not_cut (not_stroke_of_chars hyear.chars)]
    rfl
  rw [ofLocal?, hpieces]
  simp only [localYear?_eq_some_iff.mpr hyear, shortNumber?_eq_some_iff.mpr hmonth,
    shortNumber?_eq_some_iff.mpr hday]
  rfl

/-- A text that is read as a date spells it. -/
theorem spells_of_ofLocal? {text : Text} {date : Date} (h : ofLocal? text = some date)
    : SpellsLocal (Text.trim text) date.year date.month date.day := by
  rw [ofLocal?] at h
  split at h
  · rename_i day month year hpieces
    simp only [Option.bind_eq_bind, Option.bind_eq_some_iff] at h
    obtain ⟨y, hyear, m, hmonth, d, hday, hparts⟩ := h
    obtain ⟨rfl, rfl, rfl⟩ := ofParts?_eq_some_iff.mp hparts
    have htext := Text.join_pieces '/' (Text.trim text)
    rw [hpieces] at htext
    exact ⟨day, month, year, by simpa [Text.join] using htext.symm,
      shortNumber?_eq_some_iff.mp hday, shortNumber?_eq_some_iff.mp hmonth,
      localYear?_eq_some_iff.mp hyear⟩
  · cases h

/-- A text is read as the date that it spells without the blanks around it, and as none else. -/
theorem ofLocal?_eq_some_iff {text : Text} {date : Date}
    : ofLocal? text = some date ↔ SpellsLocal (Text.trim text) date.year date.month date.day := by
  refine ⟨spells_of_ofLocal?, fun h => ?_⟩
  rw [ofLocal?_of_spells h]
  exact ofParts?_eq_some_iff.mpr ⟨rfl, rfl, rfl⟩

/-- A text is read if and only if it spells a day that there is. -/
theorem isSome_ofLocal?_iff {text : Text}
    : (ofLocal? text).isSome = true
      ↔ ∃ year month day, SpellsLocal (Text.trim text) year month day ∧ Exists year month day := by
  constructor
  · intro h
    obtain ⟨date, hdate⟩ := Option.isSome_iff_exists.mp h
    exact ⟨date.year, date.month, date.day, spells_of_ofLocal? hdate, date.existent⟩
  · rintro ⟨year, month, day, hspells, hexists⟩
    rw [ofLocal?_of_spells hspells]
    exact isSome_ofParts?.mpr hexists

-----------------------------------------------------------------------------------------
-- Writing
-----------------------------------------------------------------------------------------

/-- Months are written with two digits. -/
theorem length_monthDigits (date : Date) : (Number.paddedDigits 2 date.month).length = 2 :=
  Number.length_paddedDigits_of_lt (by decide) (Nat.lt_of_le_of_lt date.month_le (by decide))

/-- Days are written with two digits. -/
theorem length_dayDigits (date : Date) : (Number.paddedDigits 2 date.day).length = 2 :=
  Number.length_paddedDigits_of_lt (by decide) (Nat.lt_of_le_of_lt date.day_le (by decide))

/-- Two digits spell the number that they are written from. -/
theorem spellsNumber_of_length {n : Nat} (h : (Number.paddedDigits 2 n).length = 2)
    : SpellsNumber (Number.paddedDigits 2 n) n :=
  ⟨by omega, by omega, fun _ => Number.isDigit_of_mem_paddedDigits,
    Number.ofDigits_paddedDigits 2 n⟩

/-- A year is spelled as it is written, with its sign or without. -/
theorem spellsYear_localYear (year : Int) : SpellsYear (localYear year) year := by
  have hdigits : ∀ n, ∀ c ∈ Number.paddedDigits 4 n, c.isDigit = true :=
    fun _ _ => Number.isDigit_of_mem_paddedDigits
  have hleast : 4 ≤ (Number.paddedDigits 4 year.natAbs).length :=
    Number.le_length_paddedDigits 4 year.natAbs
  rw [localYear]
  split
  · rename_i hplain
    have hfour : (Number.paddedDigits 4 year.toNat).length = 4 :=
      Number.length_paddedDigits_of_lt (by decide) (by change year.toNat < 10000; omega)
    have hspells := SpellsYear.plain hfour (hdigits year.toNat)
    rwa [Number.ofDigits_paddedDigits, Int.toNat_of_nonneg hplain.1] at hspells
  · split
    · have hspells := SpellsYear.negative hleast (hdigits year.natAbs)
      rwa [Number.ofDigits_paddedDigits, (by omega : -(year.natAbs : Int) = year)] at hspells
    · have hspells := SpellsYear.positive hleast (hdigits year.natAbs)
      rwa [Number.ofDigits_paddedDigits, (by omega : (year.natAbs : Int) = year)] at hspells

/-- What is written for a date spells it. -/
theorem spells_toLocal (date : Date)
    : SpellsLocal date.toLocal date.year date.month date.day := by
  have hday := spellsNumber_of_length date.length_dayDigits
  have hmonth := spellsNumber_of_length date.length_monthDigits
  exact ⟨_, _, _, by simp [toLocal], hday, hmonth, spellsYear_localYear date.year⟩

/-- The local form has no blanks around it. -/
theorem trim_toLocal (date : Date) : Text.trim date.toLocal = date.toLocal :=
  date.spells_toLocal.trim_eq

/-- The local form of a date is read back. -/
theorem ofLocal?_of_toLocal (date : Date) : ofLocal? date.toLocal = some date := by
  rw [ofLocal?_eq_some_iff, trim_toLocal]
  exact date.spells_toLocal

/-- Every date of the calendar is written in a form that it is read from again. A text is read as a
date if without the blanks around it it is day, month and year between strokes, day and month of one
or two digits, the year of four digits or of a sign and at least four, and there is such a date; it
is read as the date that it spells.
-/
theorem ofLocal?_toLocal_exact
    : (∀ date : Date, ofLocal? date.toLocal = some date)
      ∧ (∀ text, (ofLocal? text).isSome = true
          ↔ ∃ year month day, SpellsLocal (Text.trim text) year month day
              ∧ Exists year month day)
      ∧ ∀ text date, ofLocal? text = some date
          ↔ SpellsLocal (Text.trim text) date.year date.month date.day :=
  ⟨ofLocal?_of_toLocal, fun _ => isSome_ofLocal?_iff, fun _ _ => ofLocal?_eq_some_iff⟩

end Date

end LeasePapers.Calendar
