import NoteTemplate.Calendar.LocalZone
import NoteTemplate.Number.Binary64

/-!
# Instants

An instant is a date and a time of day, with or without an offset from UTC.  An instant
without offset is a local one: it is what the clocks of the local zone show.

Unix time is computed with binary floating-point numbers, one rounding per step, and its
fraction is cut off, so the milliseconds of a late instant may be one less than those it was
made from.
-/

namespace NoteTemplate

/-- The hour, minute, second and microsecond exist. -/
def IsClockTime (hour minute second microsecond : Nat) : Prop :=
  hour < 24 ∧ minute < 60 ∧ second < 60 ∧ microsecond < 1000000

instance (hour minute second microsecond : Nat) :
    Decidable (IsClockTime hour minute second microsecond) := by
  unfold IsClockTime; infer_instance

/-- A time of day to the microsecond. -/
structure ClockTime where
  hour : Nat
  minute : Nat
  second : Nat
  microsecond : Nat
  exists_time : IsClockTime hour minute second microsecond
deriving DecidableEq, Repr

namespace ClockTime

/-- The first moment of a day. -/
def midnight : ClockTime := ⟨0, 0, 0, 0, by decide⟩

/-- The time of day with the given numbers, if there is one. -/
def ofNumbers? (hour minute second microsecond : Nat) : Option ClockTime :=
  if h : IsClockTime hour minute second microsecond then
    some ⟨hour, minute, second, microsecond, h⟩
  else none

/-- The seconds since midnight. -/
def secondOfDay (time : ClockTime) : Nat := time.hour * 3600 + time.minute * 60 + time.second

/-- The hour on a clock with twelve hours. -/
def hour12 (time : ClockTime) : Nat := if time.hour % 12 = 0 then 12 else time.hour % 12

/-- The hour when midnight is the hour 24. -/
def hourFrom1 (time : ClockTime) : Nat := if time.hour = 0 then 24 else time.hour

end ClockTime

/-- A date and a time of day; `offset` is the distance from UTC in seconds, and an
instant without offset is local.  Of two local instants that the clocks show alike,
`isLater` tells the second one. -/
structure Instant where
  date : Date
  time : ClockTime
  offset : Option Int
  isLater : Bool
deriving DecidableEq, Repr

namespace Instant

/-- The day number of 1 January 1970. -/
def epochDay : Nat := 719163

/-- The seconds from the start of 1970 to the instant's numbers, taken as UTC. -/
def wallSeconds (instant : Instant) : Int :=
  ((instant.date.dayNumber : Int) - epochDay) * 86400 + instant.time.secondOfDay

variable [LocalZone]

/-- The distance from UTC in seconds. -/
def offsetSeconds (instant : Instant) : Except CalendarError Int := do
  match instant.offset with
  | some offset => return offset
  | none => return LocalZone.offsetAt (← LocalZone.pointOf instant.wallSeconds instant.isLater)

/-- The name of a zone with a fixed offset: `UTC`, followed by the offset if it is not zero. -/
def fixedZoneName (offset : Int) : Text :=
  if offset = 0 then "UTC".toList
  else
    let distance := offset.natAbs
    let sign := if offset < 0 then '-' else '+'
    let seconds := distance % 60
    "UTC".toList ++ sign :: paddedDecimal 2 (distance / 3600)
      ++ ':' :: paddedDecimal 2 (distance / 60 % 60)
      ++ (if seconds = 0 then [] else ':' :: paddedDecimal 2 seconds)

/-- The name of the time zone. -/
def zoneName (instant : Instant) : Except CalendarError Text := do
  match instant.offset with
  | some offset => return fixedZoneName offset
  | none => return LocalZone.nameAt (← LocalZone.pointOf instant.wallSeconds instant.isLater)

/-- The offset from UTC in whole minutes, rounded down, with `separator` between
hours and minutes. -/
def offsetText (instant : Instant) (separator : Text) : Except CalendarError Text := do
  let minutes := (← instant.offsetSeconds) / 60
  let sign := if minutes < 0 then '-' else '+'
  return sign :: paddedDecimal 2 (minutes.natAbs / 60) ++ separator
    ++ paddedDecimal 2 (minutes.natAbs % 60)

/-- Unix time in floating point, as a sign and a number of units.  A local instant
rounds the fraction of the second and then the sum; with an offset there is one
rounding, of the quotient of microseconds by a million. -/
def unixUnits (instant : Instant) : Except CalendarError (Bool × Nat) := do
  let microsecond := instant.time.microsecond
  match instant.offset with
  | none =>
    let second ← LocalZone.secondOf instant.wallSeconds instant.isLater
    let fraction := Binary64.roundUnits (microsecond * Binary64.one) 1000000
    let sum : Int := second * Binary64.one + fraction
    return (sum < 0, Binary64.roundUnits sum.natAbs 1)
  | some offset =>
    let total : Int := (instant.wallSeconds - offset) * 1000000 + microsecond
    return (total < 0, Binary64.roundUnits (total.natAbs * Binary64.one) 1000000)

/-- Cut the fraction off a signed number of units. -/
def wholeUnits (value : Bool × Nat) : Int :=
  let whole : Int := ((value.2 / Binary64.one : Nat) : Int)
  if value.1 then -whole else whole

/-- Unix time in whole seconds. -/
def unixSeconds (instant : Instant) : Except CalendarError Int := do
  return wholeUnits (← instant.unixUnits)

/-- Unix time in whole milliseconds. -/
def unixMilliseconds (instant : Instant) : Except CalendarError Int := do
  let (negative, units) ← instant.unixUnits
  return wholeUnits (negative, Binary64.roundUnits (units * 1000) 1)

end Instant

end NoteTemplate
