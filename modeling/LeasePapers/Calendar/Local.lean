import LeasePapers.Text.Blank
import LeasePapers.Number.Digits
import LeasePapers.Calendar.Date

/-! Dates as they stand in contracts: day, month and year between strokes. The year has four
digits; a year outside 0 to 9999 has a sign and at least four.
-/

namespace LeasePapers.Calendar

/-- A number of one or two digits. -/
def shortNumber? (text : Text) : Option Nat :=
  if text ≠ [] ∧ text.length ≤ 2 ∧ Text.allDigits text then some (Number.ofDigits text) else none

/-- A year: exactly four digits, or a sign and at least four. -/
def localYear? : Text → Option Int
  | '+' :: digits =>
      if 4 ≤ digits.length ∧ Text.allDigits digits then some (Number.ofDigits digits) else none
  | '-' :: digits =>
      if 4 ≤ digits.length ∧ Text.allDigits digits then some (-(Number.ofDigits digits : Int))
      else none
  | digits =>
      if digits.length = 4 ∧ Text.allDigits digits then some (Number.ofDigits digits) else none

/-- The year of a date in the form that `localYear?` reads. -/
def localYear (year : Int) : Text :=
  if 0 ≤ year ∧ year ≤ 9999 then Number.paddedDigits 4 year.toNat
  else (if year < 0 then '-' else '+') :: Number.paddedDigits 4 year.natAbs

namespace Date

/-- Reads a date in local form, with blanks allowed around it. -/
def ofLocal? (text : Text) : Option Date := do
  match Text.pieces (· == '/') (Text.trim text) with
  | [day, month, year] => ofParts? (← localYear? year) (← shortNumber? month) (← shortNumber? day)
  | _ => none

/-- Writes a date in local form. -/
def toLocal (date : Date) : Text :=
  Number.paddedDigits 2 date.day ++ ['/'] ++ Number.paddedDigits 2 date.month ++ ['/']
    ++ localYear date.year

end Date

/-- The local form of a date that may be missing; a missing one is the empty text. -/
def localOrEmpty : Option Date → Text
  | some date => date.toLocal
  | none => []

end LeasePapers.Calendar
