import NoteTemplate.Calendar.Date

/-!
# Weeks of the year

A week rule has two numbers: the weekday `firstDay` a week starts on, and a number
`yearDay` that says which day of January always lies in week 1, namely day
7 + `firstDay` - `yearDay`.  The rule (0, 6) is the one of English calendars: weeks
start on Sunday and 1 January is in week 1.  The rule (1, 4) is that of ISO 8601.

The ISO week is defined here once more from its own rule, the Monday of the week
of 4 January, so that the two definitions can be compared.
-/

namespace NoteTemplate

/-- Why a computation with dates has no result. -/
inductive CalendarError where
  /-- A day of this year is needed, and years go from 1 to 9999. -/
  | yearOutOfRange (year : Int)
  /-- January has no such day. -/
  | dayOutOfMonth
  /-- The number of the day is no 32-bit integer. -/
  | dayTooLarge (day : Int)
  /-- The moment is outside the calendar when it is put into UTC or a local zone. -/
  | dateOverflow
deriving DecidableEq, Repr

/-- Which weekday starts a week, and which day of January is always in week 1. -/
structure WeekRule where
  firstDay : Int
  yearDay : Int
deriving DecidableEq, Repr

/-- Weeks start on Sunday and the week of 1 January is week 1. -/
def WeekRule.english : WeekRule := ⟨0, 6⟩

/-- Weeks start on Monday and the week of 4 January is week 1. -/
def WeekRule.iso : WeekRule := ⟨1, 4⟩

/-- A year together with the number of a week in it. -/
structure YearWeek where
  year : Int
  week : Int
deriving DecidableEq, Repr

/-- The weekday of a day of January.  Days are numbered in 32 bits, which is checked
before the year and the month are. -/
def januaryWeekday (year day : Int) : Except CalendarError Int :=
  if day < -0x80000000 ∨ 0x7fffffff < day then .error (.dayTooLarge day)
  else if year < 1 ∨ 9999 < year then .error (.yearOutOfRange year)
  else if day < 1 ∨ 31 < day then .error .dayOutOfMonth
  else .ok (Date.weekdayOfNumber (Date.daysBeforeYear year.toNat + day.toNat))

/-- The first day of week 1, counted from 1 January as day 0. -/
def firstWeekOffset (rule : WeekRule) (year : Int) : Except CalendarError Int := do
  let day := 7 + rule.firstDay - rule.yearDay
  let weekday ← januaryWeekday year day
  return -((7 + weekday - rule.firstDay) % 7) + day - 1

/-- The number of weeks of a year. -/
def weeksInYear (rule : WeekRule) (year : Int) : Except CalendarError Int := do
  let offset ← firstWeekOffset rule year
  let nextOffset ← firstWeekOffset rule (year + 1)
  return (daysInYear year.toNat - offset + nextOffset) / 7

/-- The week of a date, and the year that the week belongs to. -/
def weekOf (rule : WeekRule) (date : Date) : Except CalendarError YearWeek := do
  let offset ← firstWeekOffset rule date.year
  let week := (date.dayOfYear - offset - 1) / 7 + 1
  if week < 1 then
    return ⟨date.year - 1, week + (← weeksInYear rule (date.year - 1))⟩
  else
    let weeks ← weeksInYear rule date.year
    if weeks < week then return ⟨date.year + 1, week - weeks⟩
    else return ⟨date.year, week⟩

/-- The day number of the Monday that starts ISO week 1 of a year. -/
def isoYearStart (year : Nat) : Int :=
  let newYear := Date.daysBeforeYear year + 1
  let sinceMonday := (newYear + 6) % 7
  (newYear : Int) - sinceMonday + (if 3 < sinceMonday then 7 else 0)

/-- The ISO week of a date.  It exists for every date, since 1 January of the year 1
is a Monday. -/
def isoWeekOf (date : Date) : YearWeek :=
  let day : Int := date.dayNumber
  let year :=
    if day < isoYearStart date.year then date.year - 1
    else if isoYearStart (date.year + 1) ≤ day then date.year + 1
    else date.year
  ⟨year, (day - isoYearStart year) / 7 + 1⟩

end NoteTemplate
