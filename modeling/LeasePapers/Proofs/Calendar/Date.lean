import Mathlib.Data.List.GetD
import LeasePapers.Calendar.Date

/-! The parts of a date. There are twelve months of at most 31 days, and a date is found by its
year, month and day.
-/

namespace LeasePapers.Calendar

/-- Months have days, and at most thirty-one of them. -/
theorem bounds_of_mem_monthLengths {year : Int} {length : Nat} (h : length ∈ monthLengths year)
    : 0 < length ∧ length ≤ 31 := by
  cases hleap : isLeap year <;> simp [monthLengths, hleap] at h <;> omega

/-- No month is longer than thirty-one days, whether it is one or not. -/
theorem monthLength_le (year : Int) (month : Nat) : monthLength year month ≤ 31 := by
  rw [monthLength]
  split
  · omega
  · by_cases hmonth : month - 1 < (monthLengths year).length
    · rw [List.getD_eq_getElem _ _ hmonth]
      exact (bounds_of_mem_monthLengths (List.getElem_mem hmonth)).2
    · rw [List.getD_eq_default _ _ (by omega)]
      omega

/-- Only the twelve months have days. -/
theorem month_le_of_monthLength_pos {year : Int} {month : Nat} (h : 0 < monthLength year month)
    : month ≤ 12 := by
  rw [monthLength] at h
  split at h
  · omega
  · have htwelve : (monthLengths year).length = 12 := rfl
    refine Nat.le_of_not_lt (fun hlate => ?_)
    rw [List.getD_eq_default _ _ (by omega)] at h
    omega

/-- The twelve months have days. -/
theorem monthLength_pos {year : Int} {month : Nat} (hpos : 0 < month) (hmost : month ≤ 12)
    : 0 < monthLength year month := by
  have hin : month - 1 < (monthLengths year).length := by
    change month - 1 < 12
    omega
  rw [monthLength, if_neg (Nat.ne_of_gt hpos), List.getD_eq_getElem _ _ hin]
  exact (bounds_of_mem_monthLengths (List.getElem_mem hin)).1

namespace Date

variable (date : Date)

/-- The day of a date is at most the thirty-first. -/
theorem day_le : date.day ≤ 31 :=
  Nat.le_trans date.existent.2.2.2 (monthLength_le date.year date.month)

/-- The month of a date is at most the twelfth. -/
theorem month_le : date.month ≤ 12 := by
  have hday := date.existent.2.2
  exact month_le_of_monthLength_pos (by omega : 0 < monthLength date.year date.month)

/-- The month of a date is at least the first. -/
theorem month_pos : 0 < date.month := by
  have hday := date.existent.2.2
  refine Nat.pos_of_ne_zero (fun hzero => ?_)
  rw [hzero, monthLength, if_pos rfl] at hday
  omega

variable {date}

/-- A date is made of its own year, month and day alone. -/
theorem ofParts?_eq_some_iff {year : Int} {month day : Nat}
    : ofParts? year month day = some date
      ↔ date.year = year ∧ date.month = month ∧ date.day = day := by
  rw [ofParts?]
  constructor
  · intro h
    split at h
    · obtain rfl := Option.some.inj h
      exact ⟨rfl, rfl, rfl⟩
    · cases h
  · rintro ⟨rfl, rfl, rfl⟩
    exact dif_pos date.existent

/-- Dates with the same parts are the same. -/
theorem eq_of_parts {a b : Date} (year : a.year = b.year) (month : a.month = b.month)
    (day : a.day = b.day)
    : a = b := by
  cases a
  cases b
  cases year
  cases month
  cases day
  rfl

/-- Parts make a date if and only if there is a day of that name. -/
theorem isSome_ofParts? {year : Int} {month day : Nat}
    : (ofParts? year month day).isSome = true ↔ Exists year month day := by
  rw [ofParts?]
  split <;> simp_all

end Date

end LeasePapers.Calendar
