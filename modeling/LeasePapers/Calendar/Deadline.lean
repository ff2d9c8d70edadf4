import LeasePapers.Calendar.Local

/-! Differences, deadlines and shifts of dates given in local form. Nothing here fails: a text that
is no date has no distance to any other, meets no deadline and is shifted to itself.
-/

namespace LeasePapers.Calendar

/-- The days from one date to the other, zero if either text is no date. -/
def daysBetween (start finish : Text) : Int :=
  match Date.ofLocal? start, Date.ofLocal? finish with
  | some a, some b => b.dayNumber - a.dayNumber
  | _, _ => 0

/-- Whether a date lies before today. -/
def isPast (text : Text) (today : Date) : Bool :=
  match Date.ofLocal? text with
  | some date => date.dayNumber < today.dayNumber
  | none => false

/-- Whether a date lies between today and the day that many days later, which must itself lie in
the calendar. -/
def isWithinDays (text : Text) (days : Nat) (today : Date) : Bool :=
  match Date.ofLocal? text, today.shift? days with
  | some date, some limit =>
      today.dayNumber ≤ date.dayNumber && date.dayNumber ≤ limit.dayNumber
  | _, _ => false

/-- The date that many days later in local form. A text that is no date, or that would leave the
calendar, is kept. -/
def addDays (text : Text) (days : Int) : Text :=
  match (Date.ofLocal? text).bind (fun date => date.shift? days) with
  | some date => date.toLocal
  | none => text

end LeasePapers.Calendar
