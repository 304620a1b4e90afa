import NoteTemplate.Calendar.Instant
import NoteTemplate.Format.Piece

/-!
# Writing an instant in a format

Every token has one rule for the text it shows, and literal text passes through
unchanged.  A rule fails only where the calendar ends: for the local week of a
year whose neighbour is outside the years 1 to 9999, and for the zone and the Unix
time of a local instant in the first or the last days.
-/

namespace NoteTemplate

/-- The English names of the months, January first. -/
def monthNames : List Text :=
  ["January", "February", "March", "April", "May", "June", "July", "August", "September",
   "October", "November", "December"].map String.toList

/-- The English names of the weekdays, Sunday first. -/
def weekdayNames : List Text :=
  ["Sunday", "Monday", "Tuesday", "Wednesday", "Thursday", "Friday", "Saturday"].map
    String.toList

namespace Instant

def monthName (instant : Instant) : Text := monthNames.getD (instant.date.month - 1) []

def weekdayName (instant : Instant) : Text := weekdayNames.getD instant.date.weekday []

/-- The week and week year of an English calendar. -/
def localWeek (instant : Instant) : Except CalendarError YearWeek :=
  weekOf .english instant.date

variable [LocalZone]

/-- The text that a token shows for an instant. -/
def showToken (instant : Instant) : Token → Except CalendarError Text
  | .year4 => .ok (paddedDecimal 4 instant.date.year)
  | .year2 => .ok (paddedDecimal 2 (instant.date.year % 100))
  | .monthName => .ok instant.monthName
  | .monthAbbr => .ok (instant.monthName.take 3)
  | .month2 => .ok (paddedDecimal 2 instant.date.month)
  | .monthOrdinal => .ok (ordinal instant.date.month)
  | .month => .ok (decimal instant.date.month)
  | .dayOfYear3 => .ok (paddedDecimal 3 instant.date.dayOfYear)
  | .dayOfYear => .ok (decimal instant.date.dayOfYear)
  | .day2 => .ok (paddedDecimal 2 instant.date.day)
  | .dayOrdinal => .ok (ordinal instant.date.day)
  | .day => .ok (decimal instant.date.day)
  | .weekdayName => .ok instant.weekdayName
  | .weekdayAbbr => .ok (instant.weekdayName.take 3)
  | .weekdayMin => .ok (instant.weekdayName.take 2)
  | .weekdayOrdinal => .ok (ordinal instant.date.weekday)
  | .weekday | .localeWeekday => .ok (decimal instant.date.weekday)
  | .isoWeekday => .ok (decimal instant.date.isoWeekday)
  | .hour2 => .ok (paddedDecimal 2 instant.time.hour)
  | .hour => .ok (decimal instant.time.hour)
  | .halfDayHour2 => .ok (paddedDecimal 2 instant.time.hour12)
  | .halfDayHour => .ok (decimal instant.time.hour12)
  | .hourOneBased2 => .ok (paddedDecimal 2 instant.time.hourFrom1)
  | .hourOneBased => .ok (decimal instant.time.hourFrom1)
  | .minute2 => .ok (paddedDecimal 2 instant.time.minute)
  | .minute => .ok (decimal instant.time.minute)
  | .second2 => .ok (paddedDecimal 2 instant.time.second)
  | .second => .ok (decimal instant.time.second)
  | .fraction3 => .ok (paddedDecimal 3 (instant.time.microsecond / 1000))
  | .fraction2 => .ok (paddedDecimal 2 (instant.time.microsecond / 10000))
  | .fraction1 => .ok (decimal (instant.time.microsecond / 100000))
  | .upperHalf => .ok (if instant.time.hour < 12 then ['A', 'M'] else ['P', 'M'])
  | .lowerHalf => .ok (if instant.time.hour < 12 then ['a', 'm'] else ['p', 'm'])
  | .week2 => do return paddedDecimal 2 (← instant.localWeek).week.toNat
  | .weekOrdinal => do return signedOrdinal (← instant.localWeek).week
  | .week => do return signedDecimal (← instant.localWeek).week
  | .isoWeek2 => .ok (paddedDecimal 2 (isoWeekOf instant.date).week.toNat)
  | .isoWeekOrdinal => .ok (signedOrdinal (isoWeekOf instant.date).week)
  | .isoWeek => .ok (signedDecimal (isoWeekOf instant.date).week)
  | .quarterOrdinal => .ok (ordinal instant.date.quarter)
  | .quarter => .ok (decimal instant.date.quarter)
  | .unixSeconds => do return signedDecimal (← instant.unixSeconds)
  | .unixMilliseconds => do return signedDecimal (← instant.unixMilliseconds)
  | .offsetPlain => instant.offsetText []
  | .offsetColon => instant.offsetText [':']
  | .zoneName | .zoneAbbr => instant.zoneName
  | .weekYear4 => do return paddedDecimal 4 (← instant.localWeek).year.toNat
  | .weekYear2 => do return paddedDecimal 2 ((← instant.localWeek).year % 100).toNat
  | .isoWeekYear4 => .ok (paddedDecimal 4 (isoWeekOf instant.date).year.toNat)
  | .isoWeekYear2 => .ok (paddedDecimal 2 ((isoWeekOf instant.date).year % 100).toNat)

/-- The text that a piece of a format shows for an instant. -/
def showPiece (instant : Instant) : FormatPiece → Except CalendarError Text
  | .token shown => instant.showToken shown
  | .literal kept => .ok kept

/-- The instant written in a format. -/
def format (instant : Instant) (format : Text) : Except CalendarError Text := do
  return (← (formatPieces format).mapM instant.showPiece).flatten

/-- A live example of a token, or its sample when it shows nothing. -/
def example? (instant : Instant) (token : Token) : Except CalendarError Text := do
  let shown ← instant.format token.symbol
  return if shown.isEmpty then token.sample else shown

end Instant

end NoteTemplate
