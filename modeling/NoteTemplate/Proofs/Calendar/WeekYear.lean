import Mathlib.Order.Bounds.Basic
import Mathlib.Order.SuccPred.Basic
import Mathlib.Data.Int.SuccPred
import NoteTemplate.Proofs.Calendar.Bounds

/-!
# Years of whole weeks

A week rule counts weeks in years of its own, which start on the last day of its first weekday
that is not later than a certain day of January.  These years are said here by that rule alone,
for a calendar without a first and a last year; each day lies in exactly one of them.  The week
of a date is counted from the start of the year that it lies in (`exists_weekOf`), and for the
rule of ISO 8601 that is the ISO week.
-/

namespace NoteTemplate

variable {rule : WeekRule} {date : Date} {year start next day : Int} {found : YearWeek}

/-- The number of a day of January in any year.  Day 366 of January is the last day of a leap
year, and day 0 is the day before the year. -/
def januaryDay (year day : Int) : Int :=
  (year - 1) * 365 + (year - 1) / 4 - (year - 1) / 100 + (year - 1) / 400 + day

/-- The weekday of any day number; 0 is Sunday and 6 is Saturday. -/
def weekdayOn (day : Int) : Int := day % 7

namespace WeekRule

/-- The rule starts weeks on a weekday, and it is one of the first seven days of January that
always lies in week 1. -/
structure IsUsual (rule : WeekRule) : Prop where
  firstDay_nonneg : 0 ≤ rule.firstDay
  firstDay_le : rule.firstDay ≤ 6
  one_le : 1 ≤ 7 + rule.firstDay - rule.yearDay
  le_seven : 7 + rule.firstDay - rule.yearDay ≤ 7

/-- The year of the rule starts on this day, the last one of its first weekday that is not later
than the day of January that always lies in week 1. -/
def YearStarts (rule : WeekRule) (year start : Int) : Prop :=
  IsGreatest {day | weekdayOn day = rule.firstDay ∧
    day ≤ januaryDay year (7 + rule.firstDay - rule.yearDay)} start

/-- The day lies in the year of the rule. -/
def YearHolds (rule : WeekRule) (year day : Int) : Prop :=
  ∃ start next, rule.YearStarts year start ∧ rule.YearStarts (year + 1) next ∧
    start ≤ day ∧ day < next

/-- The date lies in the year and in no other one, and its week is counted from the start of
that year. -/
structure IsWeekOf (rule : WeekRule) (date : Date) (found : YearWeek) : Prop where
  yearHolds : rule.YearHolds found.year date.dayNumber
  only_year : ∀ year, rule.YearHolds year date.dayNumber → year = found.year
  week_eq : ∀ start, rule.YearStarts found.year start →
    found.week = (date.dayNumber - start) / 7 + 1

/-- Where the year of the rule starts. -/
def yearStart (rule : WeekRule) (year : Int) : Int :=
  let latest := januaryDay year (7 + rule.firstDay - rule.yearDay)
  latest - (latest - rule.firstDay) % 7

end WeekRule

/-! ### Days of January -/

theorem januaryDay_eq (hyear : 1 ≤ year) :
    januaryDay year day = Date.daysBeforeYear year.toNat + day := by
  obtain ⟨past, rfl⟩ : ∃ past : Nat, year = past + 1 := ⟨(year - 1).toNat, by omega⟩
  have hpast : ((past : Int) + 1).toNat = past + 1 := rfl
  simp only [januaryDay, Date.daysBeforeYear, hpast]
  omega

/-- The days of a year count on from January. -/
theorem Date.dayNumber_eq (date : Date) :
    (date.dayNumber : Int) = januaryDay date.year date.dayOfYear := by
  have hyear : 1 ≤ date.year := date.exists_day.1
  rw [januaryDay_eq (by omega), dayNumber, Int.toNat_natCast]
  omega

theorem januaryDay_eq_add (year day : Int) : januaryDay year day = januaryDay year 0 + day := by
  rw [januaryDay, januaryDay, Int.add_zero]

theorem januaryDay_succ_bounds (year day : Int) :
    januaryDay year day + 365 ≤ januaryDay (year + 1) day ∧
      januaryDay (year + 1) day ≤ januaryDay year day + 366 := by
  simp only [januaryDay]
  omega

/-- A year is as long as from one January to the next. -/
theorem daysInYear_eq (hyear : 1 ≤ year) (day : Int) :
    (daysInYear year.toNat : Int) = januaryDay (year + 1) day - januaryDay year day := by
  obtain ⟨past, rfl⟩ : ∃ past : Nat, year = past + 1 := ⟨(year - 1).toNat, by omega⟩
  have hpast : ((past : Int) + 1).toNat = past + 1 := rfl
  rw [hpast, daysInYear]
  simp only [januaryDay, isLeapYear, Bool.and_eq_true, Bool.or_eq_true, beq_iff_eq, bne_iff_ne]
  split <;> omega

theorem januaryWeekday_eq (hfirst : 1 ≤ year) (hlast : year ≤ 9999) (hday : 1 ≤ day)
    (hmonth : day ≤ 31) : januaryWeekday year day = .ok (weekdayOn (januaryDay year day)) := by
  rw [januaryWeekday, if_neg (by omega), if_neg (by omega), if_neg (by omega),
    januaryDay_eq hfirst, weekdayOn, Date.weekdayOfNumber]
  congr 1
  omega

/-! ### Where the years start -/

namespace WeekRule

theorem yearStarts_iff (hrule : rule.IsUsual) :
    rule.YearStarts year start ↔ start = rule.yearStart year := by
  obtain ⟨hnonneg, hle, -, -⟩ := hrule
  have hgreatest : rule.YearStarts year (rule.yearStart year) := by
    simp only [YearStarts, IsGreatest, yearStart, weekdayOn, Set.mem_ofPred_eq, mem_upperBounds]
    generalize januaryDay year (7 + rule.firstDay - rule.yearDay) = latest
    refine ⟨⟨by omega, by omega⟩, fun day hday => ?_⟩
    omega
  constructor
  · intro h
    exact h.unique hgreatest
  · rintro rfl
    exact hgreatest

theorem yearHolds_iff (hrule : rule.IsUsual) :
    rule.YearHolds year day ↔ rule.yearStart year ≤ day ∧ day < rule.yearStart (year + 1) := by
  simp only [YearHolds, yearStarts_iff hrule]
  constructor
  · rintro ⟨start, next, rfl, rfl, hday⟩
    exact hday
  · intro hday
    exact ⟨_, _, rfl, rfl, hday⟩

/-- A year starts at most five days before and seven days behind the end of the last December. -/
theorem yearStart_bounds (hrule : rule.IsUsual) (year : Int) :
    januaryDay year 0 - 5 ≤ rule.yearStart year ∧
      rule.yearStart year ≤ januaryDay year 0 + 7 := by
  obtain ⟨-, -, hone, hseven⟩ := hrule
  have hlatest := januaryDay_eq_add year (7 + rule.firstDay - rule.yearDay)
  rw [yearStart]
  omega

/-- A year is a number of whole weeks, and of no more than 53. -/
theorem exists_weeks (rule : WeekRule) (year : Int) :
    ∃ weeks, rule.yearStart (year + 1) = rule.yearStart year + 7 * weeks ∧
      1 ≤ weeks ∧ weeks ≤ 53 := by
  obtain ⟨hshort, hlong⟩ :=
    januaryDay_succ_bounds year (7 + rule.firstDay - rule.yearDay)
  have hweeks : ∃ weeks, rule.yearStart (year + 1) = rule.yearStart year + 7 * weeks := by
    refine ⟨(rule.yearStart (year + 1) - rule.yearStart year) / 7, ?_⟩
    simp only [yearStart]
    omega
  obtain ⟨weeks, hweeks⟩ := hweeks
  refine ⟨weeks, hweeks, ?_, ?_⟩ <;> simp only [yearStart] at hweeks <;> omega

theorem yearStart_lt_yearStart_iff (rule : WeekRule) {other : Int} :
    rule.yearStart year < rule.yearStart other ↔ year < other := by
  have hmono : StrictMono rule.yearStart := by
    apply strictMono_int_of_lt_succ
    intro year
    obtain ⟨weeks, hweeks, hpos, -⟩ := exists_weeks rule year
    omega
  exact hmono.lt_iff_lt

/-- A day lies in one year only. -/
theorem YearHolds.eq {other : Int} (hrule : rule.IsUsual) (h : rule.YearHolds year day)
    (hother : rule.YearHolds other day) : year = other := by
  rw [yearHolds_iff hrule] at h hother
  have hle : year < other + 1 :=
    rule.yearStart_lt_yearStart_iff.1 (Int.lt_of_le_of_lt h.1 hother.2)
  have hge : other < year + 1 :=
    rule.yearStart_lt_yearStart_iff.1 (Int.lt_of_le_of_lt hother.1 h.2)
  omega

theorem isWeekOf_iff (hrule : rule.IsUsual) :
    rule.IsWeekOf date found ↔ rule.YearHolds found.year date.dayNumber ∧
      found.week = (date.dayNumber - rule.yearStart found.year) / 7 + 1 := by
  constructor
  · intro h
    exact ⟨h.yearHolds, h.week_eq _ ((yearStarts_iff hrule).2 rfl)⟩
  · rintro ⟨hholds, hweek⟩
    refine ⟨hholds, fun year hyear => hyear.eq hrule hholds, fun start hstart => ?_⟩
    rw [hweek, (yearStarts_iff hrule).1 hstart]

/-- A date has one week. -/
theorem IsWeekOf.eq {other : YearWeek} (hrule : rule.IsUsual) (h : rule.IsWeekOf date found)
    (hother : rule.IsWeekOf date other) : found = other := by
  obtain ⟨hholds, hweek⟩ := (isWeekOf_iff hrule).1 h
  obtain ⟨hotherHolds, hotherWeek⟩ := (isWeekOf_iff hrule).1 hother
  have hyear := hholds.eq hrule hotherHolds
  rw [← hyear, ← hweek] at hotherWeek
  cases found
  cases other
  exact congrArg₂ YearWeek.mk hyear hotherWeek.symm

theorem IsWeekOf.week_bounds (hrule : rule.IsUsual) (h : rule.IsWeekOf date found) :
    1 ≤ found.week ∧ found.week ≤ 53 := by
  obtain ⟨hholds, hweek⟩ := (isWeekOf_iff hrule).1 h
  obtain ⟨weeks, hweeks, -, hmost⟩ := exists_weeks rule found.year
  rw [yearHolds_iff hrule] at hholds
  omega

end WeekRule

/-! ### Counting weeks -/

theorem firstWeekOffset_eq (hrule : rule.IsUsual) (hfirst : 1 ≤ year) (hlast : year ≤ 9999) :
    firstWeekOffset rule year = .ok (rule.yearStart year - januaryDay year 1) := by
  have hone := hrule.one_le
  have hseven := hrule.le_seven
  rw [firstWeekOffset, januaryWeekday_eq hfirst hlast hone (by omega)]
  simp only [bind, Except.bind, pure, Except.pure, weekdayOn, WeekRule.yearStart, januaryDay]
  congr 1
  omega

theorem weeksInYear_eq (hrule : rule.IsUsual) (hfirst : 1 ≤ year) (hlast : year ≤ 9998) :
    weeksInYear rule year = .ok ((rule.yearStart (year + 1) - rule.yearStart year) / 7) := by
  rw [weeksInYear, firstWeekOffset_eq hrule hfirst (by omega),
    firstWeekOffset_eq hrule (by omega) (by omega), daysInYear_eq hfirst 1]
  simp only [bind, Except.bind, pure, Except.pure]
  congr 2
  omega

/-- The first guess is the calendar year of the date; when the week is not in it, the date lies
in the year before or behind. -/
theorem exists_isWeekOf (hrule : rule.IsUsual) (hfirst : 2 ≤ date.year)
    (hlast : date.year ≤ 9998) :
    ∃ found, weekOf rule date = .ok found ∧ rule.IsWeekOf date found := by
  obtain ⟨hday, hlong⟩ := date.dayOfYear_bounds
  have hnumber := date.dayNumber_eq.trans (januaryDay_eq_add date.year date.dayOfYear)
  have hguess : (date.dayOfYear : Int) - (rule.yearStart date.year - januaryDay date.year 1) - 1 =
      date.dayNumber - rule.yearStart date.year := by
    rw [januaryDay_eq_add _ 1]
    omega
  obtain ⟨weeks, hweeks, -⟩ := rule.exists_weeks date.year
  rw [weekOf, firstWeekOffset_eq hrule (by omega) (by omega),
    weeksInYear_eq hrule (by omega : (1 : Int) ≤ date.year) (by omega),
    weeksInYear_eq hrule (by omega : (1 : Int) ≤ date.year - 1) (by omega)]
  simp only [bind, Except.bind, pure, Except.pure, hguess, Int.sub_add_cancel]
  split
  · next hbefore =>
    have hstart := (WeekRule.yearStart_bounds hrule (date.year - 1)).2
    have hlength := (januaryDay_succ_bounds (date.year - 1) 0).1
    obtain ⟨past, hpast, -⟩ := rule.exists_weeks (date.year - 1)
    rw [Int.sub_add_cancel] at hpast hlength
    refine ⟨_, rfl, (WeekRule.isWeekOf_iff hrule).2 ⟨(WeekRule.yearHolds_iff hrule).2 ?_, ?_⟩⟩
    · dsimp only
      rw [Int.sub_add_cancel]
      omega
    · dsimp only
      omega
  · split
    · next hafter =>
      have hstart := (WeekRule.yearStart_bounds hrule (date.year + 1 + 1)).1
      have hlength := (januaryDay_succ_bounds date.year 0).1
      have hnextLength := (januaryDay_succ_bounds (date.year + 1) 0).1
      refine ⟨_, rfl, (WeekRule.isWeekOf_iff hrule).2 ⟨(WeekRule.yearHolds_iff hrule).2 ?_, ?_⟩⟩
      · dsimp only
        omega
      · dsimp only
        omega
    · next hinside =>
      refine ⟨_, rfl, (WeekRule.isWeekOf_iff hrule).2 ⟨(WeekRule.yearHolds_iff hrule).2 ?_, rfl⟩⟩
      dsimp only
      omega

/-! ### ISO weeks -/

theorem isUsual_iso : WeekRule.iso.IsUsual := by
  constructor <;> decide

/-- The Monday of the week of 4 January. -/
theorem yearStart_iso {year : Nat} (hyear : 1 ≤ year) :
    WeekRule.iso.yearStart year = isoYearStart year := by
  rw [WeekRule.yearStart, januaryDay_eq (by omega), Int.toNat_natCast]
  simp only [WeekRule.iso, isoYearStart]
  split <;> omega

theorem isWeekOf_isoWeekOf (hfirst : 2 ≤ date.year) :
    WeekRule.iso.IsWeekOf date (isoWeekOf date) := by
  obtain ⟨hday, hlong⟩ := date.dayOfYear_bounds
  have hnumber := date.dayNumber_eq.trans (januaryDay_eq_add date.year date.dayOfYear)
  have hthis := yearStart_iso (by omega : 1 ≤ date.year)
  have hnext := yearStart_iso (by omega : 1 ≤ date.year + 1)
  have hlength := (januaryDay_succ_bounds date.year 0).1
  rw [Nat.cast_succ] at hnext
  rw [WeekRule.isWeekOf_iff isUsual_iso, WeekRule.yearHolds_iff isUsual_iso, isoWeekOf]
  simp only
  split
  · next hbefore =>
    obtain ⟨past, hpast⟩ : ∃ past, date.year = past + 1 := ⟨date.year - 1, by omega⟩
    have hyear : (past : Int) + 1 = date.year := by omega
    have hstart := (WeekRule.yearStart_bounds isUsual_iso past).2
    have hpastLength := (januaryDay_succ_bounds past 0).1
    rw [hyear] at hpastLength
    rw [hpast, Nat.add_sub_cancel, hyear, hthis, yearStart_iso (by omega : 1 ≤ past)]
    rw [yearStart_iso (by omega : 1 ≤ past)] at hstart
    refine ⟨⟨?_, hbefore⟩, rfl⟩
    omega
  · split
    · next hafter =>
      have hend := (WeekRule.yearStart_bounds isUsual_iso (date.year + 1 + 1)).1
      have hnextLength := (januaryDay_succ_bounds (date.year + 1) 0).1
      rw [Nat.cast_succ, hnext]
      refine ⟨⟨hafter, ?_⟩, rfl⟩
      omega
    · next hinside =>
      rw [hthis, hnext]
      refine ⟨⟨?_, ?_⟩, rfl⟩ <;> omega

/-- In the years 2 to 9998 every date has a week by every usual rule, and by the rule of ISO 8601
it is the ISO week. -/
theorem exists_weekOf (hfirst : 2 ≤ date.year) (hlast : date.year ≤ 9998) :
    (∀ rule : WeekRule, rule.IsUsual → ∃ found, weekOf rule date = .ok found ∧
      rule.IsWeekOf date found ∧ 1 ≤ found.week ∧ found.week ≤ 53) ∧
    weekOf .iso date = .ok (isoWeekOf date) := by
  constructor
  · intro rule hrule
    obtain ⟨found, hfound, hweek⟩ := exists_isWeekOf hrule hfirst hlast
    exact ⟨found, hfound, hweek, hweek.week_bounds hrule⟩
  · obtain ⟨found, hfound, hweek⟩ := exists_isWeekOf isUsual_iso hfirst hlast
    rw [hfound, hweek.eq isUsual_iso (isWeekOf_isoWeekOf hfirst)]

/-- 31 December 2023 was a Sunday: English calendars count it to the first week of 2024, and ISO
8601 counts it to the last week of 2023. -/
theorem exists_weekOf_newYearsEve :
    (∃ found, weekOf .english ⟨2023, 12, 31, by decide⟩ = .ok found ∧
      WeekRule.english.IsWeekOf ⟨2023, 12, 31, by decide⟩ found ∧ found = ⟨2024, 1⟩) ∧
    weekOf .iso ⟨2023, 12, 31, by decide⟩ = .ok ⟨2023, 52⟩ := by
  have hweeks := @exists_weekOf ⟨2023, 12, 31, by decide⟩ (by decide) (by decide)
  obtain ⟨found, hfound, hweek, -⟩ := hweeks.1 .english (by constructor <;> decide)
  have hyear : weekOf .english ⟨2023, 12, 31, by decide⟩ = .ok ⟨2024, 1⟩ := by decide
  exact ⟨⟨found, hfound, hweek, Except.ok.inj (hfound.symm.trans hyear)⟩, hweeks.2⟩

end NoteTemplate
