import NoteTemplate.Proofs.Calendar.SinceEpoch
import NoteTemplate.Proofs.Number.Rounding

/-!
# Recent instants

From 13 January 1970 to 19 November 2286 a local instant is since 1970 wherever the clocks
stand.  Where they show UTC, its Unix time has at least ten digits when it is counted in
milliseconds, and no more than thirteen.  The roundings on the way are far too small to change
that; but clocks that are ahead of UTC by more than ten hours show the first day when there are
still only nine digits.
-/

namespace NoteTemplate

namespace Date

/-- From this day on the milliseconds since 1970 have ten digits. -/
def firstRecent : Date := ⟨1970, 1, 13, by decide⟩

/-- Until the end of this day they have no more than thirteen. -/
def lastRecent : Date := ⟨2286, 11, 19, by decide⟩

end Date

namespace Instant

variable {instant : Instant}

/-- The instant is a local one on a day from 13 January 1970 to 19 November 2286. -/
structure IsRecent (instant : Instant) : Prop where
  isLocal : instant.offset = none
  firstRecent_le : Date.firstRecent.dayNumber ≤ instant.date.dayNumber
  le_lastRecent : instant.date.dayNumber ≤ Date.lastRecent.dayNumber

instance (instant : Instant) : Decidable instant.IsRecent :=
  decidable_of_iff
    (instant.offset = none ∧ Date.firstRecent.dayNumber ≤ instant.date.dayNumber ∧
      instant.date.dayNumber ≤ Date.lastRecent.dayNumber)
    ⟨fun h => ⟨h.1, h.2.1, h.2.2⟩, fun h => ⟨h.1, h.2, h.3⟩⟩

theorem secondOfDay_lt (time : ClockTime) : time.secondOfDay < 86400 := by
  obtain ⟨hhour, hminute, hsecond, -⟩ := time.exists_time
  rw [ClockTime.secondOfDay]
  omega

namespace IsRecent

theorem dayNumber_bounds (h : instant.IsRecent) :
    719175 ≤ instant.date.dayNumber ∧ instant.date.dayNumber ≤ 834902 := by
  have hfirst : Date.firstRecent.dayNumber = 719175 := by decide
  have hlast : Date.lastRecent.dayNumber = 834902 := by decide
  rw [← hfirst, ← hlast]
  exact ⟨h.firstRecent_le, h.le_lastRecent⟩

theorem wallSeconds_bounds (h : instant.IsRecent) :
    1036800 ≤ instant.wallSeconds ∧ instant.wallSeconds < 9999936000 := by
  have hday := h.dayNumber_bounds
  have hsecond := secondOfDay_lt instant.time
  rw [wallSeconds, epochDay]
  omega

/-- The fraction of the second may round up, but not beyond two seconds. -/
theorem fraction_le (instant : Instant) :
    Binary64.roundUnits (instant.time.microsecond * Binary64.one) 1000000 ≤ 2 * Binary64.one := by
  have hone := Binary64.two_pow_le_one
  have hmicrosecond : instant.time.microsecond * Binary64.one ≤ 1000000 * Binary64.one :=
    Nat.mul_le_mul_right _ (Nat.le_of_lt instant.time.exists_time.2.2.2)
  have hround := Binary64.roundUnits_error (instant.time.microsecond * Binary64.one) 1000000
    (by decide)
  generalize Binary64.one = one at *
  omega

variable [LocalZone]

/-- Where the clocks are a day behind or ahead, 1970 has still begun. -/
theorem isCounted (h : instant.IsRecent) : instant.IsCounted := by
  have hday := h.dayNumber_bounds.1
  apply isCounted_of_secondOf h.isLocal (by rw [epochDay]; omega)
  intro second hsecond
  have hnear := LocalZone.natAbs_sub_lt_of_secondOf hsecond
  have hwall := h.wallSeconds_bounds.1
  omega

/-- The Unix time in units lies between these numbers of seconds. -/
theorem bounds_of_unixUnits (h : instant.IsRecent) (hutc : LocalZone.IsUtc) {negative : Bool}
    {units : Nat} (hunits : instant.unixUnits = .ok (negative, units)) :
    negative = false ∧ 1036799 * Binary64.one ≤ units ∧ units ≤ 9999936003 * Binary64.one := by
  obtain ⟨hlow, hhigh⟩ := h.wallSeconds_bounds
  cases hfound : LocalZone.secondOf instant.wallSeconds instant.isLater with
  | error error =>
    rw [unixUnits, h.isLocal] at hunits
    simp [hfound, bind, Except.bind] at hunits
  | ok second =>
    obtain ⟨seconds, hseconds⟩ : ∃ seconds : Nat, instant.wallSeconds = seconds :=
      Int.eq_ofNat_of_zero_le (by omega)
    obtain rfl : second = seconds := (hutc.eq_of_secondOf hfound).trans hseconds
    rw [hseconds] at hlow hhigh
    rw [unixUnits_eq h.isLocal hfound] at hunits
    obtain ⟨rfl, rfl⟩ := Prod.mk.inj (Except.ok.inj hunits)
    have hleast : 1036800 * Binary64.one ≤ seconds * Binary64.one :=
      Nat.mul_le_mul_right _ (by omega)
    have hmost : seconds * Binary64.one ≤ 9999936000 * Binary64.one :=
      Nat.mul_le_mul_right _ (by omega)
    have hone := Binary64.two_pow_le_one
    have hfraction := fraction_le instant
    have hsum := Binary64.roundUnits_one_bounds (seconds * Binary64.one +
      Binary64.roundUnits (instant.time.microsecond * Binary64.one) 1000000)
    refine ⟨rfl, ?_⟩
    generalize Binary64.one = one at *
    omega

/-- In milliseconds the Unix time of clocks on UTC has ten to thirteen digits. -/
theorem bounds_of_unixMilliseconds (h : instant.IsRecent) (hutc : LocalZone.IsUtc)
    {milliseconds : Int} (hshown : instant.unixMilliseconds = .ok milliseconds) :
    10 ^ 9 ≤ milliseconds ∧ milliseconds < 10 ^ 13 := by
  rw [unixMilliseconds] at hshown
  obtain ⟨⟨negative, units⟩, hunits, hshown⟩ := bind_eq_ok_iff.1 hshown
  obtain ⟨rfl, hlow, hhigh⟩ := h.bounds_of_unixUnits hutc hunits
  obtain rfl := Except.ok.inj hshown
  have hone := Binary64.two_pow_le_one
  have hround := Binary64.roundUnits_one_bounds (units * 1000)
  have hleast : 10 ^ 9 ≤ Binary64.roundUnits (units * 1000) 1 / Binary64.one := by
    rw [Nat.le_div_iff_mul_le (by omega)]
    omega
  have hmost : Binary64.roundUnits (units * 1000) 1 / Binary64.one < 10 ^ 13 := by
    rw [Nat.div_lt_iff_lt_mul (by omega)]
    omega
  exact ⟨Int.ofNat_le.2 hleast, Int.ofNat_lt.2 hmost⟩

end IsRecent

end Instant

end NoteTemplate
