import Mathlib.Tactic.IntervalCases
import NoteTemplate.Calendar.Instant

/-!
# Bounds of the calendar

A year has 365 or 366 days, and so does the number of a day in its year keep within bounds.
The weeks of both calendars are numbered from 1 to at most 54, and the hours of a clock with
twelve from 1 to 12.
-/

namespace NoteTemplate

theorem daysInMonth_le (year month : Nat) : daysInMonth year month ≤ 31 := by
  fun_cases daysInMonth year month <;> decide

theorem daysInYear_bounds (year : Nat) : 365 ≤ daysInYear year ∧ daysInYear year ≤ 366 := by
  rw [daysInYear]
  split <;> decide

namespace Date

theorem daysBeforeYear_succ_bounds (year : Nat) (hyear : 1 ≤ year) :
    daysBeforeYear year + 365 ≤ daysBeforeYear (year + 1) ∧
      daysBeforeYear (year + 1) ≤ daysBeforeYear year + 366 := by
  obtain ⟨past, rfl⟩ : ∃ past, year = past + 1 := ⟨year - 1, by omega⟩
  simp only [daysBeforeYear, Nat.add_sub_cancel]
  omega

theorem daysBeforeYear_ge (year : Nat) : (year - 1) * 365 ≤ daysBeforeYear year := by
  simp only [daysBeforeYear]
  omega

/-- The end of a month is at most as late as in a leap year. -/
theorem daysBeforeMonth_add_le (year : Nat) {month : Nat} (hpos : 1 ≤ month) (hmonth : month ≤ 12) :
    daysBeforeMonth year month + daysInMonth year month ≤ 366 := by
  cases hleap : isLeapYear year <;> interval_cases month <;>
    simp [daysBeforeMonth, List.range_succ, daysInMonth, hleap]

theorem dayOfYear_bounds (date : Date) : 1 ≤ date.dayOfYear ∧ date.dayOfYear ≤ 366 := by
  obtain ⟨-, -, hpos, hmonth, hday, hlast⟩ := date.exists_day
  have hend := daysBeforeMonth_add_le date.year hpos hmonth
  rw [dayOfYear]
  omega

end Date

/-! ### Weeks -/

theorem exists_firstWeekOffset_english (year : Int) (hfirst : 1 ≤ year) (hlast : year ≤ 9999) :
    ∃ offset, firstWeekOffset .english year = .ok offset ∧ -6 ≤ offset ∧ offset ≤ 0 := by
  obtain ⟨weekday, hweekday⟩ : ∃ weekday, januaryWeekday year 1 = .ok weekday := by
    rw [januaryWeekday, if_neg (by omega), if_neg (by omega), if_neg (by omega)]
    exact ⟨_, rfl⟩
  have hoffset : firstWeekOffset .english year = .ok (-((7 + weekday - 0) % 7) + 1 - 1) := by
    rw [firstWeekOffset]
    simp only [WeekRule.english, Int.reduceAdd, Int.reduceSub, hweekday]
    rfl
  exact ⟨_, hoffset, by omega, by omega⟩

/-- The week of an English calendar belongs to the year of the date or to the next one. -/
theorem exists_weekOf_english (date : Date) (hyear : date.year ≤ 9998) :
    ∃ found, weekOf .english date = .ok found ∧
      (found.year = date.year ∨ found.year = date.year + 1) ∧
      1 ≤ found.week ∧ found.week ≤ 54 := by
  have hpos : 1 ≤ date.year := date.exists_day.1
  obtain ⟨hday, hlast⟩ := date.dayOfYear_bounds
  obtain ⟨hshort, hlong⟩ := daysInYear_bounds date.year
  obtain ⟨offset, hoffset, hlow, hhigh⟩ :=
    exists_firstWeekOffset_english date.year (by omega) (by omega)
  obtain ⟨nextOffset, hnext, hnextLow, hnextHigh⟩ :=
    exists_firstWeekOffset_english (date.year + 1) (by omega) (by omega)
  have hweeks : weeksInYear .english date.year =
      .ok ((daysInYear date.year - offset + nextOffset) / 7) := by
    rw [weeksInYear, hoffset, hnext]
    rfl
  have hweek : ¬ ((date.dayOfYear : Int) - offset - 1) / 7 + 1 < 1 := by omega
  rw [weekOf, hoffset]
  simp only [bind, Except.bind, pure, Except.pure, if_neg hweek, hweeks]
  split
  · next hlater =>
    refine ⟨_, rfl, Or.inr rfl, ?_, ?_⟩
    · exact Int.sub_pos.2 hlater
    · dsimp only
      omega
  · exact ⟨_, rfl, Or.inl rfl, by dsimp only; omega, by dsimp only; omega⟩

theorem isoYearStart_bounds (year : Nat) :
    (Date.daysBeforeYear year : Int) - 2 ≤ isoYearStart year ∧
      isoYearStart year ≤ Date.daysBeforeYear year + 4 := by
  simp only [isoYearStart]
  split <;> omega

/-- The ISO week belongs to the year of the date or to a neighbour of it. -/
theorem isoWeekOf_bounds (date : Date) (hyear : 2 ≤ date.year) :
    0 ≤ (isoWeekOf date).year ∧ (isoWeekOf date).year ≤ date.year + 1 ∧
      1 ≤ (isoWeekOf date).week ∧ (isoWeekOf date).week ≤ 54 := by
  obtain ⟨hday, hlast⟩ := date.dayOfYear_bounds
  have hnumber : date.dayNumber = Date.daysBeforeYear date.year + date.dayOfYear := rfl
  have hstart := isoYearStart_bounds date.year
  rw [isoWeekOf]
  split
  · next hbefore =>
    have hpast := isoYearStart_bounds (date.year - 1)
    have hlength := Date.daysBeforeYear_succ_bounds (date.year - 1) (by omega)
    rw [Nat.sub_add_cancel (by omega)] at hlength
    refine ⟨?_, ?_, ?_, ?_⟩ <;> dsimp only <;> omega
  · split
    · next hafter =>
      have hnext := isoYearStart_bounds (date.year + 1)
      have hlength := Date.daysBeforeYear_succ_bounds date.year (by omega)
      refine ⟨?_, ?_, ?_, ?_⟩ <;> dsimp only <;> omega
    · refine ⟨?_, ?_, ?_, ?_⟩ <;> dsimp only <;> omega

/-! ### Hours -/

theorem ClockTime.hour12_bounds (time : ClockTime) : 1 ≤ time.hour12 ∧ time.hour12 ≤ 12 := by
  rw [hour12]
  split <;> omega

end NoteTemplate
