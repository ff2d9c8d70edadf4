import LeasePapers.Calendar.Deadline
import LeasePapers.Proofs.Calendar.Local
import LeasePapers.Proofs.Calendar.NextDay

/-! Differences, shifts and deadlines of dates in local form. The difference counts the days from
one date to the other and a shift goes so many days on or back, wherever the calendar has them. A
deadline is met if the date lies so few days after today, but only while the whole window lies in
the calendar.
-/

namespace LeasePapers.Calendar

open Date

-----------------------------------------------------------------------------------------
-- Differences and shifts
-----------------------------------------------------------------------------------------

section

variable {first second third : Text} {a b c : Date}

/-- The days between two texts that are dates. -/
theorem daysBetween_of_dates (ha : ofLocal? first = some a) (hb : ofLocal? second = some b)
    : daysBetween first second = b.dayNumber - a.dayNumber := by
  rw [daysBetween, ha, hb]

/-- The days between two dates lead from one to the other. -/
theorem daysFrom_daysBetween (ha : ofLocal? first = some a) (hb : ofLocal? second = some b)
    : DaysFrom a (daysBetween first second) b := by
  rw [daysFrom_iff, daysBetween_of_dates ha hb]
  omega

/-- Adding days leads to the date that many days on. -/
theorem addDays_of_daysFrom {days : Int} (ha : ofLocal? first = some a) (h : DaysFrom a days b)
    : addDays first days = b.toLocal := by
  rw [addDays, ha, Option.bind_some, daysFrom_iff_shift?.mp h]

/-- A text comes back where no date is that many days on. -/
theorem addDays_eq_self {days : Int} (ha : ofLocal? first = some a)
    (h : ¬ ∃ b, DaysFrom a days b)
    : addDays first days = first := by
  have hnone : a.shift? days = none := by
    refine Option.eq_none_iff_forall_ne_some.mpr (fun b hb => h ⟨b, ?_⟩)
    exact daysFrom_iff_shift?.mpr hb
  rw [addDays, ha, Option.bind_some, hnone]

/-- The days that were added are those between. -/
theorem daysBetween_addDays {days : Int} (ha : ofLocal? first = some a) (h : DaysFrom a days b)
    : daysBetween first (addDays first days) = days := by
  rw [addDays_of_daysFrom ha h, daysBetween_of_dates ha b.ofLocal?_of_toLocal, daysFrom_iff.mp h]
  omega

/-- The difference of two dates counts the days from the first to the second, and shifting the
first by it gives the second in local form. The other way round the difference has the other sign,
and over a third date differences add up. A shift by any number of days, positive or negative, gives
the date that lies so many days off, to which the difference is that number again; where the
calendar has no such date the text is kept.
-/
theorem daysBetween_addDays_exact (ha : ofLocal? first = some a) (hb : ofLocal? second = some b)
    (hc : ofLocal? third = some c)
    : DaysFrom a (daysBetween first second) b
      ∧ addDays first (daysBetween first second) = b.toLocal
      ∧ daysBetween second first = -daysBetween first second
      ∧ daysBetween first third = daysBetween first second + daysBetween second third
      ∧ ∀ days : Int,
          (∀ d, DaysFrom a days d
            → addDays first days = d.toLocal ∧ daysBetween first (addDays first days) = days)
          ∧ ((¬ ∃ d, DaysFrom a days d) → addDays first days = first) := by
  have hdays := daysFrom_daysBetween ha hb
  refine ⟨hdays, addDays_of_daysFrom ha hdays, ?_, ?_, fun days => ⟨?_, addDays_eq_self ha⟩⟩
  · rw [daysBetween_of_dates ha hb, daysBetween_of_dates hb ha]
    omega
  · rw [daysBetween_of_dates ha hb, daysBetween_of_dates hb hc, daysBetween_of_dates ha hc]
    omega
  · intro d hd
    exact ⟨addDays_of_daysFrom ha hd, daysBetween_addDays ha hd⟩

end

/-- The day before the last one of the calendar. -/
def lastEve : Date :=
  ⟨lastYear, 12, 30, by decide⟩

/-- A leap day before the year zero. -/
def leapDayBefore : Date :=
  ⟨-4, 2, 29, by decide⟩

/-- The day behind a leap day. -/
def marchFirst : Date :=
  ⟨2024, 3, 1, by decide⟩

/-- The last day follows its eve. -/
theorem nextDay_lastEve : NextDay lastEve lastDay :=
  .sameMonth rfl rfl rfl

/-- No day follows the last one. -/
theorem not_daysFrom_lastDay : ¬ ∃ d, DaysFrom lastDay 1 d := by
  rintro ⟨d, hd⟩
  have hnumber := daysFrom_iff.mp hd
  have hmost := dayNumber_le_lastDay d
  omega

/-- The laws hold across the years with a sign, up to the last day. -/
theorem daysBetween_addDays_lastDay
    : ofLocal? "31/12/+262142" = some lastDay ∧ ofLocal? "29/02/-0004" = some leapDayBefore
      ∧ ofLocal? "01/03/2024" = some marchFirst ∧ DaysFrom lastDay (-1) lastEve
      ∧ (¬ ∃ d, DaysFrom lastDay 1 d)
      ∧ addDays "31/12/+262142" (daysBetween "31/12/+262142" "29/02/-0004") = "29/02/-0004"
      ∧ daysBetween "31/12/+262142" "01/03/2024"
        = daysBetween "31/12/+262142" "29/02/-0004" + daysBetween "29/02/-0004" "01/03/2024"
      ∧ addDays "31/12/+262142" (-1) = "30/12/+262142"
      ∧ addDays "31/12/+262142" 1 = "31/12/+262142" := by
  have hlastLocal : lastDay.toLocal = "31/12/+262142" := by decide
  have heveLocal : lastEve.toLocal = "30/12/+262142" := by decide
  have hleapLocal : leapDayBefore.toLocal = "29/02/-0004" := by decide
  have hmarchLocal : marchFirst.toLocal = "01/03/2024" := by decide
  have hlast : ofLocal? "31/12/+262142" = some lastDay := hlastLocal ▸ lastDay.ofLocal?_of_toLocal
  have hleap : ofLocal? "29/02/-0004" = some leapDayBefore :=
    hleapLocal ▸ leapDayBefore.ofLocal?_of_toLocal
  have hmarch : ofLocal? "01/03/2024" = some marchFirst :=
    hmarchLocal ▸ marchFirst.ofLocal?_of_toLocal
  have heve : DaysFrom lastDay (-1) lastEve := .tomorrow nextDay_lastEve (.today lastDay)
  obtain ⟨-, hshift, -, hsum, hdays⟩ := daysBetween_addDays_exact hlast hleap hmarch
  exact ⟨hlast, hleap, hmarch, heve, not_daysFrom_lastDay, hshift.trans hleapLocal, hsum,
    ((hdays (-1)).1 lastEve heve).1.trans heveLocal, (hdays 1).2 not_daysFrom_lastDay⟩

-----------------------------------------------------------------------------------------
-- Deadlines
-----------------------------------------------------------------------------------------

/-- A date lies in the window of so many days from today on. -/
def InWindow (days : Nat) (today date : Date) : Prop :=
  ∃ passed ≤ days, DaysLater passed today date

/-- A date lies in a window if its number does. -/
theorem inWindow_iff {days : Nat} {today date : Date}
    : InWindow days today date
      ↔ today.dayNumber ≤ date.dayNumber ∧ date.dayNumber ≤ today.dayNumber + days := by
  simp only [InWindow, daysLater_iff]
  constructor
  · rintro ⟨passed, hpassed, hnumber⟩
    omega
  · rintro ⟨hleast, hmost⟩
    exact ⟨(date.dayNumber - today.dayNumber).toNat, by omega, by omega⟩

/-- A longer window holds what a shorter one does. -/
theorem InWindow.mono {days more : Nat} {today date : Date} (hmore : days ≤ more)
    (h : InWindow days today date)
    : InWindow more today date := by
  obtain ⟨passed, hpassed, hlater⟩ := h
  exact ⟨passed, Nat.le_trans hpassed hmore, hlater⟩

/-- What is asked of a text is whether it is a date in a window that ends in the calendar. -/
theorem isWithinDays_iff {text : Text} {days : Nat} {today : Date}
    : isWithinDays text days today = true
      ↔ (∃ limit, DaysLater days today limit)
        ∧ ∃ date, ofLocal? text = some date ∧ InWindow days today date := by
  have hlimit : (∃ limit, DaysLater days today limit) ↔ ∃ limit, today.shift? days = some limit :=
    exists_congr (fun _ => daysLater_iff_shift?)
  rw [hlimit, isWithinDays]
  cases htext : ofLocal? text with
  | none => simp
  | some date =>
      cases hshift : today.shift? days with
      | none => simp
      | some limit =>
          have hnumber := shift?_eq_some_iff.mp hshift
          simp [inWindow_iff, hnumber]

/-- A deadline is met exactly if the text is a date that lies at most so many days after today, as
long as the calendar reaches to the end of these days; and it is still met if there are more days,
as long as the calendar reaches to the end of those.
-/
theorem isWithinDays_exact (text : Text) (today : Date)
    : (∀ days, isWithinDays text days today = true
        ↔ (∃ limit, DaysLater days today limit)
          ∧ ∃ date, ofLocal? text = some date ∧ InWindow days today date)
      ∧ ∀ days more, days ≤ more → (∃ limit, DaysLater more today limit)
        → isWithinDays text days today = true → isWithinDays text more today = true := by
  refine ⟨fun days => isWithinDays_iff, ?_⟩
  intro days more hmore hlimit h
  obtain ⟨-, date, htext, hwindow⟩ := isWithinDays_iff.mp h
  exact isWithinDays_iff.mpr ⟨hlimit, date, htext, hwindow.mono hmore⟩

/-- A window up to the last day still ends in the calendar. -/
theorem isWithinDays_lastEve
    : 0 ≤ 1 ∧ (∃ limit, DaysLater 1 lastEve limit)
      ∧ isWithinDays "30/12/+262142" 0 lastEve = true
      ∧ isWithinDays "30/12/+262142" 1 lastEve = true := by
  have heveLocal : lastEve.toLocal = "30/12/+262142" := by decide
  have heve : ofLocal? "30/12/+262142" = some lastEve := heveLocal ▸ lastEve.ofLocal?_of_toLocal
  have hlimit : ∃ limit, DaysLater 1 lastEve limit :=
    ⟨lastDay, .tomorrow nextDay_lastEve (.today lastDay)⟩
  obtain ⟨hexact, hmono⟩ := isWithinDays_exact "30/12/+262142" lastEve
  have htoday : isWithinDays "30/12/+262142" 0 lastEve = true :=
    (hexact 0).mpr ⟨⟨lastEve, .today lastEve⟩, lastEve, heve, 0, Nat.le_refl 0, .today lastEve⟩
  exact ⟨Nat.zero_le 1, hlimit, htoday, hmono 0 1 (Nat.zero_le 1) hlimit htoday⟩

/-- On the last day of the calendar a deadline on that very day is not met within one day, since
the calendar does not reach to the end of it.
-/
theorem isWithinDays_lastDay
    : ¬ ∀ (text : Text) (days : Nat) (today : Date), isWithinDays text days today = true
        ↔ ∃ date, ofLocal? text = some date ∧ InWindow days today date := by
  intro h
  have hlastLocal : lastDay.toLocal = "31/12/+262142" := by decide
  have hlast : ofLocal? "31/12/+262142" = some lastDay := hlastLocal ▸ lastDay.ofLocal?_of_toLocal
  have hmet := (h "31/12/+262142" 1 lastDay).mpr
    ⟨lastDay, hlast, 0, Nat.zero_le 1, .today lastDay⟩
  exact not_daysFrom_lastDay (isWithinDays_iff.mp hmet).1

end LeasePapers.Calendar
