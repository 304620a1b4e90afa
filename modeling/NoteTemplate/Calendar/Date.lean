/-!
# Dates

A date is a day of the proleptic Gregorian calendar in the years 1 to 9999.  Only
days that exist are values of the type.  Days are numbered from 1 January of the
year 1, which was a Monday, so the weekday is the day number modulo seven.
-/

namespace NoteTemplate

/-- A leap year is divisible by four, but not by one hundred unless by four hundred. -/
def isLeapYear (year : Nat) : Bool :=
  year % 4 == 0 && (year % 100 != 0 || year % 400 == 0)

/-- The number of days of a month, January being month 1. -/
def daysInMonth (year month : Nat) : Nat :=
  match month with
  | 2 => if isLeapYear year then 29 else 28
  | 4 | 6 | 9 | 11 => 30
  | _ => 31

/-- The number of days of a year. -/
def daysInYear (year : Nat) : Nat := if isLeapYear year then 366 else 365

/-- The day exists in the calendar of the years 1 to 9999. -/
def IsCalendarDay (year month day : Nat) : Prop :=
  1 ≤ year ∧ year ≤ 9999 ∧ 1 ≤ month ∧ month ≤ 12 ∧ 1 ≤ day ∧ day ≤ daysInMonth year month

instance (year month day : Nat) : Decidable (IsCalendarDay year month day) := by
  unfold IsCalendarDay; infer_instance

/-- A day of the years 1 to 9999. -/
structure Date where
  year : Nat
  month : Nat
  day : Nat
  exists_day : IsCalendarDay year month day
deriving DecidableEq, Repr

namespace Date

/-- The date with the given year, month and day, if there is one. -/
def ofNumbers? (year month day : Nat) : Option Date :=
  if h : IsCalendarDay year month day then some ⟨year, month, day, h⟩ else none

/-- The days of the year before the first of a month. -/
def daysBeforeMonth (year month : Nat) : Nat :=
  (List.range (month - 1)).foldr (fun m days => daysInMonth year (m + 1) + days) 0

/-- The days before the first day of a year, counted from the year 1. -/
def daysBeforeYear (year : Nat) : Nat :=
  let past := year - 1
  past * 365 + past / 4 - past / 100 + past / 400

/-- The position of the date in its year; 1 January is day 1. -/
def dayOfYear (date : Date) : Nat := daysBeforeMonth date.year date.month + date.day

/-- The position of the date in the calendar; 1 January of the year 1 is day 1. -/
def dayNumber (date : Date) : Nat := daysBeforeYear date.year + date.dayOfYear

/-- The weekday of a day number; 0 is Sunday and 6 is Saturday. -/
def weekdayOfNumber (number : Nat) : Nat := number % 7

/-- The weekday; 0 is Sunday and 6 is Saturday. -/
def weekday (date : Date) : Nat := weekdayOfNumber date.dayNumber

/-- The weekday by the ISO numbering; 1 is Monday and 7 is Sunday. -/
def isoWeekday (date : Date) : Nat := if date.weekday = 0 then 7 else date.weekday

/-- The quarter of the year, from 1 to 4. -/
def quarter (date : Date) : Nat := (date.month - 1) / 3 + 1

theorem weekday_lt_seven (date : Date) : date.weekday < 7 := Nat.mod_lt _ (by decide)

theorem ofNumbers?_eq_some_iff {year month day : Nat} {date : Date} :
    ofNumbers? year month day = some date ↔
      date.year = year ∧ date.month = month ∧ date.day = day := by
  unfold ofNumbers?
  split
  · next h =>
    cases date
    simp only [Option.some.injEq, Date.mk.injEq]
    constructor
    · rintro ⟨rfl, rfl, rfl⟩; exact ⟨rfl, rfl, rfl⟩
    · rintro ⟨rfl, rfl, rfl⟩; exact ⟨rfl, rfl, rfl⟩
  · next h =>
    constructor
    · intro hfalse; exact absurd hfalse (by simp)
    · rintro ⟨rfl, rfl, rfl⟩; exact absurd date.exists_day h

end Date

end NoteTemplate
