import LeasePapers.Number.Digits
import LeasePapers.Calendar.Date

/-! Months and times of day in words, as the letters use them.
-/

namespace LeasePapers.Calendar

/-- The names of the months, from January. -/
def monthNames : List Text :=
  ["janeiro", "fevereiro", "março", "abril", "maio", "junho", "julho", "agosto", "setembro",
   "outubro", "novembro", "dezembro"].map String.toList

/-- The name of a month, counted from one; other numbers have the empty name. -/
def monthName (month : Nat) : Text :=
  if month = 0 then [] else monthNames.getD (month - 1) []

/-- The name of the month so many months before a date. -/
def monthNameBefore (date : Date) (months : Nat) : Text :=
  monthNames.getD ((date.month + 11 - months) % 12) []

/-- The last two months and the present one, with the year of the date. -/
def lastThreeMonths (date : Date) : Text :=
  Text.join ", " ([2, 1, 0].map (monthNameBefore date)) ++ " de "
    ++ Number.signedDigits date.year

/-- The greeting of a business letter written at that hour. -/
def greeting (hour : Nat) : Text :=
  if hour < 12 then "bom dia" else "boa tarde"

end LeasePapers.Calendar
