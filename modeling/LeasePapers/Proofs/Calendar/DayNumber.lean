import Mathlib.Order.Monotone.Basic
import LeasePapers.Proofs.Calendar.Date

/-! Dates and their day numbers. The days of a year carry the numbers from the first day of that
year on, without a gap up to the next year, so that a date has one number and a number one date at
most.
-/

namespace LeasePapers.Calendar

-----------------------------------------------------------------------------------------
-- Stretches laid end to end
-----------------------------------------------------------------------------------------

/-- The total grows by the next length, by induction on the lengths. -/
theorem total_take_succ {lengths : List Nat} {i : Nat} (h : i < lengths.length)
    : Date.total (lengths.take (i + 1)) = Date.total (lengths.take i) + lengths[i] := by
  induction lengths generalizing i with
  | nil => cases h
  | cons length rest ih =>
      cases i with
      | zero => simp [Date.total]
      | succ i =>
          have hrest := ih (Nat.lt_of_succ_lt_succ h)
          simp only [List.take_succ_cons, Date.total, List.getElem_cons_succ] at hrest ⊢
          omega

/-- The total of some lengths is at most that of all of them, by induction on the lengths. -/
theorem total_take_le (lengths : List Nat) (i : Nat)
    : Date.total (lengths.take i) ≤ Date.total lengths := by
  induction lengths generalizing i with
  | nil => simp
  | cons length rest ih =>
      cases i with
      | zero => simp [Date.total]
      | succ i => simpa [Date.total] using ih i

/-- A place within a stretch lies before everything behind that stretch. -/
theorem total_take_add_lt {lengths : List Nat} {i r : Nat} (hi : i < lengths.length)
    (hr : r < lengths[i])
    : Date.total (lengths.take i) + r < Date.total lengths := by
  have hnext := total_take_succ hi
  have hall := total_take_le lengths (i + 1)
  omega

/-- A place is found by the stretch that holds it, by induction on the lengths. -/
theorem locate_take_add {lengths : List Nat} {i r : Nat} (hi : i < lengths.length)
    (hr : r < lengths[i])
    : locate lengths (Date.total (lengths.take i) + r) = (i, r) := by
  induction lengths generalizing i with
  | nil => cases hi
  | cons length rest ih =>
      cases i with
      | zero =>
          have hfirst : Date.total ((length :: rest).take 0) + r = r := by simp [Date.total]
          rw [hfirst, locate]
          exact if_pos hr
      | succ i =>
          have hlater : Date.total ((length :: rest).take (i + 1)) + r
              = length + (Date.total (rest.take i) + r) := by
            simp [Date.total, Nat.add_assoc]
          rw [hlater, locate, if_neg (by omega), Nat.add_sub_cancel_left,
            ih (Nat.lt_of_succ_lt_succ hi) hr]

/-- Every place before the end lies in one of the stretches, by induction on the lengths. -/
theorem exists_place {lengths : List Nat} {place : Nat} (h : place < Date.total lengths)
    : ∃ i r, ∃ hi : i < lengths.length, r < lengths[i]
        ∧ place = Date.total (lengths.take i) + r := by
  induction lengths generalizing place with
  | nil => cases h
  | cons length rest ih =>
      by_cases hfirst : place < length
      · exact ⟨0, place, Nat.succ_pos _, hfirst, by simp [Date.total]⟩
      · have hrest : place - length < Date.total rest := by
          have htotal : Date.total (length :: rest) = length + Date.total rest := rfl
          omega
        obtain ⟨i, r, hi, hr, hplace⟩ := ih hrest
        refine ⟨i + 1, r, Nat.succ_lt_succ hi, hr, ?_⟩
        simp only [List.take_succ_cons, Date.total]
        omega

-----------------------------------------------------------------------------------------
-- Years
-----------------------------------------------------------------------------------------

/-- The number of the first day of a year. -/
def yearStart (year : Int) : Int :=
  eraDays * (year / 400) + (Date.total (eraLengths.take (year % 400).toNat) : Nat)

/-- An era has four hundred years. -/
theorem length_eraLengths : eraLengths.length = 400 := by
  simp [eraLengths]

/-- The years of an era have its days together. -/
theorem total_eraLengths : Date.total eraLengths = eraDays := by
  decide +kernel

/-- Whether a year is a leap year is told by its place in the era. -/
theorem isLeap_emod (year : Int) : isLeap (year % 400) = isLeap year := by
  simp only [isLeap, (by omega : year % 400 % 4 = year % 4),
    (by omega : year % 400 % 100 = year % 100), (by omega : year % 400 % 400 = year % 400)]

/-- The lengths of years repeat with every era. -/
theorem yearLength_emod (year : Int) : yearLength (year % 400) = yearLength year := by
  simp only [yearLength, isLeap_emod]

/-- The months of a year have its days together. -/
theorem total_monthLengths (year : Int) : Date.total (monthLengths year) = yearLength year := by
  cases h : isLeap year <;> simp [monthLengths, yearLength, h, Date.total]

/-- The lengths of an era are those of its years. -/
theorem getElem_eraLengths {i : Nat} (h : i < eraLengths.length)
    : eraLengths[i] = yearLength i := by
  simp [eraLengths]

/-- A year starts where the one before it ends. -/
theorem yearStart_add_one (year : Int)
    : yearStart (year + 1) = yearStart year + yearLength year := by
  have hin : (year % 400).toNat < eraLengths.length := by
    rw [length_eraLengths]
    omega
  have hnext : Date.total (eraLengths.take ((year % 400).toNat + 1))
      = Date.total (eraLengths.take (year % 400).toNat) + yearLength year := by
    rw [total_take_succ hin, getElem_eraLengths hin, Int.toNat_of_nonneg (by omega),
      yearLength_emod]
  by_cases hlast : year % 400 = 399
  · -- The next year begins an era, and all years of the old one are over.
    have hall : Date.total (eraLengths.take ((year % 400).toNat + 1)) = eraDays := by
      rw [← total_eraLengths, List.take_of_length_le]
      rw [length_eraLengths]
      omega
    rw [yearStart, yearStart, (by omega : (year + 1) / 400 = year / 400 + 1),
      (by omega : (year + 1) % 400 = 0)]
    simp only [Int.toNat_zero, List.take_zero, Date.total, Int.mul_add, Int.mul_one]
    omega
  · rw [yearStart, yearStart, (by omega : (year + 1) / 400 = year / 400),
      (by omega : ((year + 1) % 400).toNat = (year % 400).toNat + 1), hnext]
    omega

/-- Later years start later. -/
theorem yearStart_le_yearStart {a b : Int} (h : a ≤ b) : yearStart a ≤ yearStart b := by
  refine monotone_int_of_le_succ (fun year => ?_) h
  rw [yearStart_add_one]
  omega

namespace Date

-----------------------------------------------------------------------------------------
-- Days of a year
-----------------------------------------------------------------------------------------

/-- The days of the year before a date. -/
def daysBefore (date : Date) : Nat :=
  total ((monthLengths date.year).take (date.month - 1)) + (date.day - 1)

variable (date : Date)

/-- A day is counted from the start of its year. -/
theorem dayNumber_eq : date.dayNumber = yearStart date.year + date.daysBefore := by
  rw [dayNumber, yearStart, daysBefore]
  omega

/-- The month of a date is one of its year. -/
theorem month_sub_one_lt : date.month - 1 < (monthLengths date.year).length := by
  have hmost := date.month_le
  have hpos := date.month_pos
  change date.month - 1 < 12
  omega

/-- The length of the month of a date is found among those of its year. -/
theorem monthLength_eq (h : date.month - 1 < (monthLengths date.year).length)
    : monthLength date.year date.month = (monthLengths date.year)[date.month - 1] := by
  rw [monthLength, if_neg (Nat.ne_of_gt date.month_pos), List.getD_eq_getElem _ _ h]

/-- The day of a date is one of its month. -/
theorem day_sub_one_lt (h : date.month - 1 < (monthLengths date.year).length)
    : date.day - 1 < (monthLengths date.year)[date.month - 1] := by
  have hday := date.existent.2.2
  rw [date.monthLength_eq h] at hday
  omega

/-- The days before a date are fewer than those of its year. -/
theorem daysBefore_lt : date.daysBefore < yearLength date.year := by
  rw [← total_monthLengths]
  exact total_take_add_lt date.month_sub_one_lt (date.day_sub_one_lt date.month_sub_one_lt)

-----------------------------------------------------------------------------------------
-- Numbers and dates
-----------------------------------------------------------------------------------------

variable {date}

/-- A number is found by its place in the era and its place in the year. -/
theorem ofDayNumber?_of_places {era : Int} {i r j s : Nat} (hi : i < eraLengths.length)
    (hr : r < eraLengths[i]) (hj : j < (monthLengths (400 * era + i)).length)
    (hs : s < (monthLengths (400 * era + i))[j])
    (hrest : r = total ((monthLengths (400 * era + i)).take j) + s)
    : ofDayNumber? (eraDays * era + (total (eraLengths.take i) + r : Nat))
      = ofParts? (400 * era + i) (j + 1) (s + 1) := by
  have hplace : total (eraLengths.take i) + r < eraDays := by
    rw [← total_eraLengths]
    exact total_take_add_lt hi hr
  have hera : (eraDays * era + (total (eraLengths.take i) + r : Nat)) / (eraDays : Int) = era := by
    rw [Int.add_comm, Int.add_mul_ediv_left _ _ (by decide), Int.ediv_eq_zero_of_lt, Int.zero_add]
    · omega
    · omega
  have hin : (eraDays * era + (total (eraLengths.take i) + r : Nat)) % (eraDays : Int)
      = (total (eraLengths.take i) + r : Nat) := by
    rw [Int.add_comm, Int.add_mul_emod_self_left, Int.emod_eq_of_lt]
    · omega
    · omega
  rw [ofDayNumber?, hera, hin, Int.toNat_natCast, locate_take_add hi hr]
  simp only [hrest, locate_take_add hj hs]

/-- The lengths of an era are those of the years of any era. -/
theorem getElem_eraLengths_of_year (era : Int) {i : Nat} (hi : i < eraLengths.length)
    : eraLengths[i] = yearLength (400 * era + i) := by
  rw [length_eraLengths] at hi
  rw [getElem_eraLengths, ← yearLength_emod (400 * era + i), (by omega : (400 * era + i) % 400 = i)]

/-- A date is found by its number. -/
theorem ofDayNumber?_dayNumber (date : Date) : ofDayNumber? date.dayNumber = some date := by
  have hin : (date.year % 400).toNat < eraLengths.length := by
    rw [length_eraLengths]
    omega
  have hyear : 400 * (date.year / 400) + (date.year % 400).toNat = date.year := by omega
  have hlength : date.daysBefore < eraLengths[(date.year % 400).toNat] := by
    rw [getElem_eraLengths_of_year (date.year / 400) hin, hyear]
    exact date.daysBefore_lt
  have hmonth := date.month_pos
  have hday := date.existent.2.2.1
  have hfound := ofDayNumber?_of_places (j := date.month - 1) (s := date.day - 1) hin hlength
    (by rw [hyear]; exact date.month_sub_one_lt)
    (by simp only [hyear]; exact date.day_sub_one_lt date.month_sub_one_lt)
    (by rw [hyear]; rfl)
  have hnumber : date.dayNumber = eraDays * (date.year / 400)
      + (total (eraLengths.take (date.year % 400).toNat) + date.daysBefore : Nat) := by
    rw [dayNumber_eq, yearStart]
    omega
  rw [hnumber, hfound, ofParts?_eq_some_iff]
  exact ⟨hyear.symm, by omega, by omega⟩

/-- A date that is found has the number it was looked for by. -/
theorem dayNumber_of_ofDayNumber? {number : Int} {date : Date} (h : ofDayNumber? number = some date)
    : date.dayNumber = number := by
  have hpos : (0 : Int) < eraDays := by decide
  have hleast := Int.emod_nonneg number (Int.ne_of_gt hpos)
  have hless := Int.emod_lt_of_pos number hpos
  have hera : (number % eraDays).toNat < total eraLengths := by
    rw [total_eraLengths]
    omega
  obtain ⟨i, r, hi, hr, hplace⟩ := exists_place hera
  have hyear : r < total (monthLengths (400 * (number / eraDays) + i)) := by
    rw [total_monthLengths, ← getElem_eraLengths_of_year (number / eraDays) hi]
    exact hr
  obtain ⟨j, s, hj, hs, hrest⟩ := exists_place hyear
  have hnumber : number = eraDays * (number / eraDays) + (total (eraLengths.take i) + r : Nat) := by
    have hsplit := Int.mul_ediv_add_emod number eraDays
    omega
  rw [hnumber, ofDayNumber?_of_places hi hr hj hs hrest, ofParts?_eq_some_iff] at h
  obtain ⟨hyears, hmonth, hday⟩ := h
  rw [length_eraLengths] at hi
  rw [hnumber, dayNumber_eq, yearStart, daysBefore, hmonth, hday, hyears,
    (by omega : (400 * (number / eraDays) + i) / 400 = number / eraDays),
    (by omega : ((400 * (number / eraDays) + i) % 400).toNat = i), hrest]
  simp only [Nat.add_sub_cancel]
  omega

/-- Dates and the numbers that they carry determine each other. -/
theorem ofDayNumber?_eq_some_iff {number : Int} {date : Date}
    : ofDayNumber? number = some date ↔ date.dayNumber = number := by
  refine ⟨dayNumber_of_ofDayNumber?, ?_⟩
  rintro rfl
  exact ofDayNumber?_dayNumber date

/-- Moving a date adds to its number, inside the calendar. -/
theorem shift?_eq_some_iff {start finish : Date} {days : Int}
    : start.shift? days = some finish ↔ finish.dayNumber = start.dayNumber + days :=
  ofDayNumber?_eq_some_iff

/-- Different dates have different numbers. -/
theorem dayNumber_injective : Function.Injective dayNumber := by
  intro a b h
  have hread := ofDayNumber?_dayNumber a
  rw [h, ofDayNumber?_dayNumber b] at hread
  exact (Option.some.inj hread).symm

end Date

end LeasePapers.Calendar
