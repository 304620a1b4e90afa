import NoteTemplate.Calendar.Week
import NoteTemplate.Text.Basic

/-!
# Local time

The clocks of a place are some seconds ahead of UTC or behind it, and the zone of the place
has a name.  Both may change in the course of time, so a zone tells them for every second,
counted from the start of 1970.

When clocks are put back they show some hours twice, and when they are put forward they leave
some out.  `secondOf` finds the second at which they show something by looking at how far they
are off at up to three neighbouring seconds; all of these must lie in the calendar.
-/

namespace NoteTemplate

/-- The zone of the place where the program runs. -/
class LocalZone where
  /-- How many seconds the clocks are ahead of UTC. -/
  offsetAt : Int → Int
  /-- How the zone is called. -/
  nameAt : Int → Text
  natAbs_offsetAt_lt : ∀ second, (offsetAt second).natAbs < 86400

namespace LocalZone

/-- The clocks show UTC. -/
@[reducible] def utc : LocalZone where
  offsetAt _ := 0
  nameAt _ := "UTC".toList
  natAbs_offsetAt_lt _ := by decide

/-- The first second of the year 1. -/
def firstSecond : Int := -62135596800

/-- The last second of the year 9999. -/
def lastSecond : Int := 253402300799

/-- The second is one of the calendar. -/
def IsInCalendar (second : Int) : Prop := firstSecond ≤ second ∧ second ≤ lastSecond

instance (second : Int) : Decidable (IsInCalendar second) := by
  unfold IsInCalendar; infer_instance

variable [LocalZone]

/-- The clocks always show UTC. -/
structure IsUtc : Prop where
  offsetAt_eq : ∀ second, offsetAt second = 0
  nameAt_eq : ∀ second, nameAt second = "UTC".toList

/-- What the clocks show at a second, as a second of UTC. -/
def shownAt (second : Int) : Except CalendarError Int :=
  let shown := second + offsetAt second
  if shown < firstSecond then .error (.yearOutOfRange 0)
  else if lastSecond < shown then .error (.yearOutOfRange 10000)
  else .ok shown

/-- The second at which the clocks show `shown`, when they are ahead by `offset` or else
`found` is such a second, if there is any.  Left out by the clocks, it is put before or
behind the gap. -/
def secondFrom (shown found offset : Int) (fits isLater : Bool) : Except CalendarError Int := do
  let second := shown - offset
  if (← shownAt second) = shown then return second
  else if fits then return found
  else return if isLater then min found second else max found second

/-- The second at which the clocks show `shown`, the later one of two if `isLater`. -/
def secondOf (shown : Int) (isLater : Bool) : Except CalendarError Int := do
  let offset := (← shownAt shown) - shown
  let found := shown - offset
  let shownFound ← shownAt found
  if shownFound = shown then
    let neighbour := if isLater then found + 86400 else found - 86400
    let nearOffset := (← shownAt neighbour) - neighbour
    if offset = nearOffset then return found
    else secondFrom shown found nearOffset true isLater
  else secondFrom shown found (shownFound - found) false isLater

/-- The second of UTC from which the offset and the name of the zone are read. -/
def pointOf (shown : Int) (isLater : Bool) : Except CalendarError Int := do
  let second ← secondOf shown isLater
  let point := shown - offsetAt second
  if IsInCalendar point ∧ IsInCalendar (point + offsetAt point) then return point
  else .error .dateOverflow

end LocalZone

end NoteTemplate
