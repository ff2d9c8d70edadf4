/-! Dates of the Gregorian calendar, carried on before its introduction and past the present, from
the first day of the year -262143 to the last of the year 262142. Days are numbered through, so
that differences and shifts are arithmetic on day numbers.
-/

namespace LeasePapers.Calendar

/-- The first year of the calendar. -/
def firstYear : Int := -262143

/-- The last year of the calendar. -/
def lastYear : Int := 262142

/-- Every fourth year is a leap year, of the full centuries every fourth. -/
def isLeap (year : Int) : Bool :=
  year % 4 == 0 && (year % 100 != 0 || year % 400 == 0)

/-- The lengths of the months of a year, from January. -/
def monthLengths (year : Int) : List Nat :=
  [31, if isLeap year then 29 else 28, 31, 30, 31, 30, 31, 31, 30, 31, 30, 31]

/-- The length of a month, zero for a month that does not exist. -/
def monthLength (year : Int) (month : Nat) : Nat :=
  if month = 0 then 0 else (monthLengths year).getD (month - 1) 0

/-- The length of a year. -/
def yearLength (year : Int) : Nat :=
  if isLeap year then 366 else 365

/-- The lengths of the 400 years of an era, after which the calendar repeats itself. -/
def eraLengths : List Nat :=
  (List.range 400).map (fun year : Nat => yearLength year)

/-- The days of an era. -/
def eraDays : Nat := 146097

/-- The day exists in the calendar. -/
def Exists (year : Int) (month day : Nat) : Prop :=
  firstYear ≤ year ∧ year ≤ lastYear ∧ 1 ≤ day ∧ day ≤ monthLength year month

/-- Whether a date exists is computed from its numbers. -/
instance (year : Int) (month day : Nat) : Decidable (Exists year month day) :=
  inferInstanceAs (Decidable (_ ∧ _ ∧ _ ∧ _))

/-- A day of the calendar. Months and days count from one. -/
structure Date where
  year : Int
  month : Nat
  day : Nat
  existent : Exists year month day

namespace Date

/-- The date with the given year, month and day, if there is one. -/
def ofParts? (year : Int) (month day : Nat) : Option Date :=
  if h : Exists year month day then some ⟨year, month, day, h⟩ else none

/-- The sum of lengths. -/
def total : List Nat → Nat
  | [] => 0
  | length :: rest => length + total rest

/-- The number of a day, counted from the first day of the year zero. -/
def dayNumber (date : Date) : Int :=
  eraDays * (date.year / 400)
    + (total (eraLengths.take (date.year % 400).toNat)
      + total ((monthLengths date.year).take (date.month - 1))
      + (date.day - 1) : Nat)

end Date

/-- Which of several stretches, laid end to end, holds a place, and how far into that stretch the
place lies. -/
def locate : List Nat → Nat → Nat × Nat
  | [], place => (0, place)
  | length :: rest, place =>
      if place < length then (0, place)
      else
        let found := locate rest (place - length)
        (found.1 + 1, found.2)

/-- The date with the given day number, if it lies in the calendar. -/
def Date.ofDayNumber? (number : Int) : Option Date :=
  let inEra := locate eraLengths (number % eraDays).toNat
  let year := 400 * (number / eraDays) + inEra.1
  let inYear := locate (monthLengths year) inEra.2
  Date.ofParts? year (inYear.1 + 1) (inYear.2 + 1)

/-- The date so many days later, if it lies in the calendar. -/
def Date.shift? (date : Date) (days : Int) : Option Date :=
  Date.ofDayNumber? (date.dayNumber + days)

/-- A date with a time of day. -/
structure Moment where
  date : Date
  hour : Nat

end LeasePapers.Calendar
