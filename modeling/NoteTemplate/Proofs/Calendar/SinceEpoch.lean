import NoteTemplate.Proofs.Calendar.Bounds
import NoteTemplate.Proofs.Calendar.LocalZone

/-!
# Instants since 1970

The ISO week of an instant since 1 January 1970 belongs to a year of four digits.  Its English
week does so too, but in the year 9999 there is none: the first week of the next year would be
needed.  Where the clocks show UTC, Unix time is not negative; elsewhere it may be so on the
first day.
-/

namespace NoteTemplate

namespace Date

theorem year_bounds_of_dayNumber (date : Date) :
    (date.year - 1) * 365 < date.dayNumber ∧ date.dayNumber ≤ date.year * 366 := by
  obtain ⟨hfirst, hlast⟩ := date.dayOfYear_bounds
  have hbefore := daysBeforeYear_ge date.year
  have hafter : daysBeforeYear date.year ≤ (date.year - 1) * 366 := by
    simp only [daysBeforeYear]
    omega
  have hpos : 1 ≤ date.year := date.exists_day.1
  rw [dayNumber]
  omega

end Date

/-- No ISO week of the last year is counted to the year after it. -/
theorem isoWeekOf_year_lt (date : Date) (hyear : 2 ≤ date.year) :
    (isoWeekOf date).year < 10000 := by
  obtain ⟨-, hnext, -⟩ := isoWeekOf_bounds date hyear
  have hlast : date.year ≤ 9999 := date.exists_day.2.1
  rcases Nat.lt_or_eq_of_le hlast with hearlier | hfinal
  · omega
  · have hstart : isoYearStart 10000 = 3652062 := by decide
    have hdays : Date.daysBeforeYear 9999 = 3651694 := by decide
    have hday := date.dayOfYear_bounds.2
    have hnumber : date.dayNumber = Date.daysBeforeYear date.year + date.dayOfYear := rfl
    rw [hfinal, hdays] at hnumber
    rw [isoWeekOf, hfinal]
    simp only [Nat.reduceAdd, hstart]
    split
    · omega
    · split
      · omega
      · simp

/-- An English week is only found up to the year 9998. -/
theorem year_le_of_weekOf_english {date : Date} {found : YearWeek}
    (h : weekOf .english date = .ok found) : date.year ≤ 9998 := by
  have hlast : date.year ≤ 9999 := date.exists_day.2.1
  by_contra hlate
  have hyear : date.year = 9999 := by omega
  obtain ⟨offset, hoffset, -, hnonpos⟩ := exists_firstWeekOffset_english 9999 (by omega) (by omega)
  have hnext : firstWeekOffset .english 10000 = .error (.yearOutOfRange 10000) := by rfl
  have hweeks : weeksInYear .english 9999 = .error (.yearOutOfRange 10000) := by
    rw [weeksInYear, hoffset]
    simp only [Int.reduceAdd, hnext]
    rfl
  have hday := date.dayOfYear_bounds.1
  have hweek : ¬ ((date.dayOfYear : Int) - offset - 1) / 7 + 1 < 1 := by omega
  rw [weekOf, hyear] at h
  simp only [Nat.cast_ofNat, hoffset, hweeks, bind, Except.bind, if_neg hweek] at h
  simp at h

namespace Instant

variable {instant : Instant}

/-- The instant is a local one since 1 January 1970. -/
structure IsSinceEpoch (instant : Instant) : Prop where
  isLocal : instant.offset = none
  epochDay_le : epochDay ≤ instant.date.dayNumber

instance (instant : Instant) : Decidable instant.IsSinceEpoch :=
  decidable_of_iff (instant.offset = none ∧ epochDay ≤ instant.date.dayNumber)
    ⟨fun h => ⟨h.1, h.2⟩, fun h => ⟨h.1, h.2⟩⟩

theorem IsSinceEpoch.wallSeconds_nonneg (h : instant.IsSinceEpoch) : 0 ≤ instant.wallSeconds := by
  have hday := h.epochDay_le
  rw [epochDay] at hday
  rw [wallSeconds, epochDay]
  omega

variable [LocalZone]

theorem unixUnits_eq (h : instant.offset = none) {second : Nat}
    (hsecond : LocalZone.secondOf instant.wallSeconds instant.isLater = .ok (second : Int)) :
    instant.unixUnits = .ok (false, Binary64.roundUnits (second * Binary64.one +
      Binary64.roundUnits (instant.time.microsecond * Binary64.one) 1000000) 1) := by
  have hunits : instant.unixUnits = .ok
      (decide ((second : Int) * Binary64.one + Binary64.roundUnits
        (instant.time.microsecond * Binary64.one) 1000000 < (0 : Int)),
      Binary64.roundUnits ((second : Int) * Binary64.one + Binary64.roundUnits
        (instant.time.microsecond * Binary64.one) 1000000).natAbs 1) := by
    rw [unixUnits, h]
    simp only [hsecond]
    rfl
  rw [hunits, ← Int.natCast_mul, ← Int.natCast_add, Int.natAbs_natCast,
    decide_eq_false (Int.not_lt.2 (Int.natCast_nonneg _))]

/-- The instant is a local one, since 1970 by the calendar and by Unix time if it has one. -/
structure IsCounted (instant : Instant) : Prop where
  isLocal : instant.offset = none
  epochDay_le : epochDay ≤ instant.date.dayNumber
  unsigned : ∀ {negative units}, instant.unixUnits = .ok (negative, units) → negative = false

/-- Unix time has no sign when the clocks do not show the second before 1970 began. -/
theorem isCounted_of_secondOf (hlocal : instant.offset = none)
    (hday : epochDay ≤ instant.date.dayNumber)
    (hseconds : ∀ second, LocalZone.secondOf instant.wallSeconds instant.isLater = .ok second →
      0 ≤ second) : instant.IsCounted where
  isLocal := hlocal
  epochDay_le := hday
  unsigned := by
    intro negative units hunits
    cases hfound : LocalZone.secondOf instant.wallSeconds instant.isLater with
    | error error =>
      rw [unixUnits, hlocal] at hunits
      simp [hfound, bind, Except.bind] at hunits
    | ok second =>
      obtain ⟨second, rfl⟩ := Int.eq_ofNat_of_zero_le (hseconds second hfound)
      rw [unixUnits_eq hlocal hfound] at hunits
      exact (Prod.mk.inj (Except.ok.inj hunits)).1.symm

theorem IsSinceEpoch.isCounted (h : instant.IsSinceEpoch) (hutc : LocalZone.IsUtc) :
    instant.IsCounted := by
  apply isCounted_of_secondOf h.isLocal h.epochDay_le
  intro second hsecond
  rw [hutc.eq_of_secondOf hsecond]
  exact h.wallSeconds_nonneg

namespace IsCounted

theorem two_le_year (h : instant.IsCounted) : 2 ≤ instant.date.year := by
  have hyear := instant.date.year_bounds_of_dayNumber.2
  have hday := h.epochDay_le
  rw [epochDay] at hday
  omega

/-- The distance from UTC is less than a day. -/
theorem natAbs_lt_of_offsetSeconds (h : instant.IsCounted) {offset : Int}
    (hoffset : instant.offsetSeconds = .ok offset) : offset.natAbs < 86400 := by
  rw [offsetSeconds, h.isLocal] at hoffset
  obtain ⟨point, -, hoffset⟩ := bind_eq_ok_iff.1 hoffset
  obtain rfl := Except.ok.inj hoffset
  exact LocalZone.natAbs_offsetAt_lt point

/-- Unix time is shown as a natural number. -/
theorem exists_of_unixSeconds (h : instant.IsCounted) {shown : Int}
    (hshown : instant.unixSeconds = .ok shown) : ∃ seconds : Nat, shown = seconds := by
  rw [unixSeconds] at hshown
  obtain ⟨⟨negative, units⟩, hunits, hshown⟩ := bind_eq_ok_iff.1 hshown
  obtain rfl := h.unsigned hunits
  exact ⟨_, (Except.ok.inj hshown).symm⟩

theorem exists_of_unixMilliseconds (h : instant.IsCounted) {shown : Int}
    (hshown : instant.unixMilliseconds = .ok shown) :
    ∃ milliseconds : Nat, shown = milliseconds := by
  rw [unixMilliseconds] at hshown
  obtain ⟨⟨negative, units⟩, hunits, hshown⟩ := bind_eq_ok_iff.1 hshown
  obtain rfl := h.unsigned hunits
  exact ⟨_, (Except.ok.inj hshown).symm⟩

theorem exists_isoWeek (h : instant.IsCounted) : ∃ year week : Nat,
    isoWeekOf instant.date = ⟨year, week⟩ ∧ year < 10000 ∧ week < 100 := by
  obtain ⟨hyear, -, hpos, hweek⟩ := isoWeekOf_bounds instant.date h.two_le_year
  have hlast := isoWeekOf_year_lt instant.date h.two_le_year
  refine ⟨(isoWeekOf instant.date).year.toNat, (isoWeekOf instant.date).week.toNat, ?_,
    by omega, by omega⟩
  rw [Int.toNat_of_nonneg (by omega), Int.toNat_of_nonneg (by omega)]

end IsCounted

end Instant

end NoteTemplate
