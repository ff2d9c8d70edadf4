import LeasePapers.Proofs.Calendar.DayNumber

/-! The calendar day by day. Which day follows a date is said by the length of its month and by the
turn of the year; day numbers go up by one from day to day, so that a difference of day numbers
counts the days from one date to the other.
-/

namespace LeasePapers.Calendar

/-- The day after another, in the same month, on the first of the next month, or at New Year. -/
inductive NextDay (today tomorrow : Date) : Prop
  | sameMonth (year : tomorrow.year = today.year) (month : tomorrow.month = today.month)
      (day : tomorrow.day = today.day + 1)
  | nextMonth (last : today.day = monthLength today.year today.month)
      (year : tomorrow.year = today.year) (month : tomorrow.month = today.month + 1)
      (day : tomorrow.day = 1)
  | newYear (lastMonth : today.month = 12) (lastDay : today.day = 31)
      (year : tomorrow.year = today.year + 1) (month : tomorrow.month = 1)
      (day : tomorrow.day = 1)

/-- So many days lead from one date to the other, each to the next. -/
inductive DaysLater : Nat → Date → Date → Prop
  | today (date : Date) : DaysLater 0 date date
  | tomorrow {days : Nat} {today tomorrow date : Date} (next : NextDay today tomorrow)
      (later : DaysLater days tomorrow date)
    : DaysLater (days + 1) today date

/-- So many days lead from one date to the other, or back from the other if the number is
negative. -/
def DaysFrom (start : Date) : Int → Date → Prop
  | .ofNat days, finish => DaysLater days start finish
  | .negSucc days, finish => DaysLater (days + 1) finish start

/-- The last day of the calendar. -/
def lastDay : Date :=
  ⟨lastYear, 12, 31, by decide⟩

-----------------------------------------------------------------------------------------
-- The next day
-----------------------------------------------------------------------------------------

/-- The next day has the next number, within a month, a year and across years. -/
theorem dayNumber_of_nextDay {today tomorrow : Date} (h : NextDay today tomorrow)
    : tomorrow.dayNumber = today.dayNumber + 1 := by
  have hmonth := today.month_pos
  have hday := today.existent.2.2.1
  rw [Date.dayNumber_eq, Date.dayNumber_eq, Date.daysBefore, Date.daysBefore]
  cases h with
  | sameMonth year month day =>
      rw [year, month, day]
      omega
  | nextMonth last year month day =>
      have hin := today.month_sub_one_lt
      rw [today.monthLength_eq hin] at last
      rw [year, month, day, (by omega : today.month + 1 - 1 = today.month - 1 + 1),
        total_take_succ hin]
      omega
  | newYear lastMonth lastDay year month day =>
      have hold : Date.total ((monthLengths today.year).take (12 - 1)) + 31
          = yearLength today.year := by
        rw [← total_monthLengths]
        cases hleap : isLeap today.year <;> simp [monthLengths, hleap, Date.total]
      have hnew : Date.total ((monthLengths (today.year + 1)).take (1 - 1)) = 0 := rfl
      rw [year, month, day, lastMonth, lastDay, yearStart_add_one, hnew]
      omega

/-- Every day but the last is followed by another. -/
theorem eq_lastDay_or_exists_nextDay (today : Date)
    : today = lastDay ∨ ∃ tomorrow, NextDay today tomorrow := by
  obtain ⟨hfirst, hlast, hday, hlength⟩ := today.existent
  by_cases hmore : today.day < monthLength today.year today.month
  · exact .inr ⟨⟨today.year, today.month, today.day + 1, hfirst, hlast, by omega, hmore⟩,
      .sameMonth rfl rfl rfl⟩
  have hend : today.day = monthLength today.year today.month := by omega
  by_cases hmonth : today.month < 12
  · have hpos : 0 < monthLength today.year (today.month + 1) :=
      monthLength_pos (Nat.succ_pos _) hmonth
    exact .inr ⟨⟨today.year, today.month + 1, 1, hfirst, hlast, by omega, hpos⟩,
      .nextMonth hend rfl rfl rfl⟩
  have hdecember : today.month = 12 := by
    have hmost := today.month_le
    omega
  have hlastDay : today.day = 31 := by
    rw [hend, hdecember]
    rfl
  by_cases hyear : today.year < lastYear
  · have hpos : 0 < monthLength (today.year + 1) 1 := monthLength_pos Nat.one_pos (by omega)
    exact .inr ⟨⟨today.year + 1, 1, 1, by omega, hyear, Nat.le_refl 1, hpos⟩,
      .newYear hdecember hlastDay rfl rfl rfl⟩
  have hlastYear : today.year = lastYear := by omega
  exact .inl (Date.eq_of_parts hlastYear hdecember hlastDay)

/-- No number lies beyond the last day: the year after it would begin there. -/
theorem dayNumber_le_lastDay (date : Date) : date.dayNumber ≤ lastDay.dayNumber := by
  have hyear := yearStart_le_yearStart (Int.add_le_add_right date.existent.2.1 1)
  have hin := date.daysBefore_lt
  have hlast : lastDay.dayNumber + 1 = yearStart (lastYear + 1) := by
    rw [yearStart_add_one, Date.dayNumber_eq]
    have hdays : lastDay.daysBefore + 1 = yearLength lastYear := by decide
    have hyear : lastDay.year = lastYear := rfl
    rw [hyear]
    omega
  rw [yearStart_add_one] at hyear
  rw [date.dayNumber_eq]
  omega

-----------------------------------------------------------------------------------------
-- Days counted
-----------------------------------------------------------------------------------------

/-- Going on day by day adds to the number, by induction on the days. -/
theorem dayNumber_of_daysLater {days : Nat} {start finish : Date} (h : DaysLater days start finish)
    : finish.dayNumber = start.dayNumber + days := by
  induction h with
  | today date => simp
  | tomorrow next _ ih =>
      rw [ih, dayNumber_of_nextDay next]
      omega

/-- A date with a greater number is reached day by day, by induction on the days. -/
theorem daysLater_of_dayNumber {days : Nat} {start finish : Date}
    (h : finish.dayNumber = start.dayNumber + days)
    : DaysLater days start finish := by
  -- The first step is taken from the start, which is not the last day as long as days are left.
  induction days generalizing start with
  | zero =>
      obtain rfl : finish = start := Date.dayNumber_injective (by omega)
      exact .today finish
  | succ days ih =>
      obtain rfl | ⟨next, hnext⟩ := eq_lastDay_or_exists_nextDay start
      · have hmost := dayNumber_le_lastDay finish
        omega
      · have hnumber := dayNumber_of_nextDay hnext
        exact .tomorrow hnext (ih (by omega))

/-- Days later is the same as a number that is so much greater. -/
theorem daysLater_iff {days : Nat} {start finish : Date}
    : DaysLater days start finish ↔ finish.dayNumber = start.dayNumber + days :=
  ⟨dayNumber_of_daysLater, daysLater_of_dayNumber⟩

/-- Day numbers count days. -/
theorem daysFrom_iff {start finish : Date} {days : Int}
    : DaysFrom start days finish ↔ finish.dayNumber = start.dayNumber + days := by
  cases days with
  | ofNat days => exact daysLater_iff
  | negSucc days =>
      refine daysLater_iff.trans ?_
      omega

/-- Days later is where moving a date leads. -/
theorem daysLater_iff_shift? {start finish : Date} {days : Nat}
    : DaysLater days start finish ↔ start.shift? days = some finish :=
  daysLater_iff.trans Date.shift?_eq_some_iff.symm

/-- A date is shifted to the date that lies so many days off, if there is one. -/
theorem daysFrom_iff_shift? {start finish : Date} {days : Int}
    : DaysFrom start days finish ↔ start.shift? days = some finish :=
  daysFrom_iff.trans Date.shift?_eq_some_iff.symm

end LeasePapers.Calendar
