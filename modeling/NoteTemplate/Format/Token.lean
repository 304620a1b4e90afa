import NoteTemplate.Text.Lowercase

/-!
# Tokens of a date format

A token is a short symbol in a format, such as `YYYY`, that stands for one part of
a date or time.  No symbol is empty, and no two tokens share one.  Several symbols
begin with another one (`YYYY` with `YY`), so a format is read by trying the longer
symbols first.
-/

namespace NoteTemplate

/-- What a token is about. -/
inductive TokenCategory where
  | year | month | day | hour | minute | second | halfDay | zone | other
deriving DecidableEq, Repr

/-- The name of a category. -/
def TokenCategory.name : TokenCategory → Text
  | .year => "year".toList
  | .month => "month".toList
  | .day => "day".toList
  | .hour => "hour".toList
  | .minute => "minute".toList
  | .second => "second".toList
  | .halfDay => "ampm".toList
  | .zone => "timezone".toList
  | .other => "other".toList

/-- The category is one of a calendar date. -/
def TokenCategory.isDate : TokenCategory → Bool
  | .year | .month | .day => true
  | _ => false

/-- The category is one of a time of day. -/
def TokenCategory.isTime : TokenCategory → Bool
  | .hour | .minute | .second | .halfDay => true
  | _ => false

/-- The parts of a date or time that a format can name. -/
inductive Token where
  | year4
  | year2
  | monthName
  | monthAbbr
  | month2
  | monthOrdinal
  | month
  | dayOfYear3
  | dayOfYear
  | day2
  | dayOrdinal
  | day
  | weekdayName
  | weekdayAbbr
  | weekdayMin
  | weekdayOrdinal
  | weekday
  | localeWeekday
  | isoWeekday
  | hour2
  | hour
  | halfDayHour2
  | halfDayHour
  | hourOneBased2
  | hourOneBased
  | minute2
  | minute
  | second2
  | second
  | fraction3
  | fraction2
  | fraction1
  | upperHalf
  | lowerHalf
  | week2
  | weekOrdinal
  | week
  | isoWeek2
  | isoWeekOrdinal
  | isoWeek
  | quarterOrdinal
  | quarter
  | unixSeconds
  | unixMilliseconds
  | offsetPlain
  | offsetColon
  | zoneName
  | zoneAbbr
  | weekYear4
  | weekYear2
  | isoWeekYear4
  | isoWeekYear2
deriving DecidableEq, Repr

namespace Token

/-- All tokens, in the order in which they are offered. -/
def all : List Token :=
  [.year4, .year2, .monthName, .monthAbbr, .month2, .monthOrdinal, .month, .dayOfYear3,
   .dayOfYear, .day2, .dayOrdinal, .day, .weekdayName, .weekdayAbbr, .weekdayMin,
   .weekdayOrdinal, .weekday, .localeWeekday, .isoWeekday, .hour2, .hour, .halfDayHour2,
   .halfDayHour, .hourOneBased2, .hourOneBased, .minute2, .minute, .second2, .second, .fraction3,
   .fraction2, .fraction1, .upperHalf, .lowerHalf, .week2, .weekOrdinal, .week, .isoWeek2,
   .isoWeekOrdinal, .isoWeek, .quarterOrdinal, .quarter, .unixSeconds, .unixMilliseconds,
   .offsetPlain, .offsetColon, .zoneName, .zoneAbbr, .weekYear4, .weekYear2, .isoWeekYear4,
   .isoWeekYear2]

/-- The symbol that stands for the token in a format. -/
def symbol : Token → Text
  | .year4 => ['Y', 'Y', 'Y', 'Y']
  | .year2 => ['Y', 'Y']
  | .monthName => ['M', 'M', 'M', 'M']
  | .monthAbbr => ['M', 'M', 'M']
  | .month2 => ['M', 'M']
  | .monthOrdinal => ['M', 'o']
  | .month => ['M']
  | .dayOfYear3 => ['D', 'D', 'D', 'D']
  | .dayOfYear => ['D', 'D', 'D']
  | .day2 => ['D', 'D']
  | .dayOrdinal => ['D', 'o']
  | .day => ['D']
  | .weekdayName => ['d', 'd', 'd', 'd']
  | .weekdayAbbr => ['d', 'd', 'd']
  | .weekdayMin => ['d', 'd']
  | .weekdayOrdinal => ['d', 'o']
  | .weekday => ['d']
  | .localeWeekday => ['e']
  | .isoWeekday => ['E']
  | .hour2 => ['H', 'H']
  | .hour => ['H']
  | .halfDayHour2 => ['h', 'h']
  | .halfDayHour => ['h']
  | .hourOneBased2 => ['k', 'k']
  | .hourOneBased => ['k']
  | .minute2 => ['m', 'm']
  | .minute => ['m']
  | .second2 => ['s', 's']
  | .second => ['s']
  | .fraction3 => ['S', 'S', 'S']
  | .fraction2 => ['S', 'S']
  | .fraction1 => ['S']
  | .upperHalf => ['A']
  | .lowerHalf => ['a']
  | .week2 => ['w', 'w']
  | .weekOrdinal => ['w', 'o']
  | .week => ['w']
  | .isoWeek2 => ['W', 'W']
  | .isoWeekOrdinal => ['W', 'o']
  | .isoWeek => ['W']
  | .quarterOrdinal => ['Q', 'o']
  | .quarter => ['Q']
  | .unixSeconds => ['X']
  | .unixMilliseconds => ['x']
  | .offsetPlain => ['Z', 'Z']
  | .offsetColon => ['Z']
  | .zoneName => ['z', 'z']
  | .zoneAbbr => ['z']
  | .weekYear4 => ['g', 'g', 'g', 'g']
  | .weekYear2 => ['g', 'g']
  | .isoWeekYear4 => ['G', 'G', 'G', 'G']
  | .isoWeekYear2 => ['G', 'G']

/-- What the token shows, in a few words. -/
def description : Token → Text
  | .year4 => "4-digit year".toList
  | .year2 => "2-digit year".toList
  | .monthName => "Full month name".toList
  | .monthAbbr => "Abbreviated month".toList
  | .month2 => "Month (zero-padded)".toList
  | .monthOrdinal => "Month with ordinal".toList
  | .month => "Month".toList
  | .dayOfYear3 => "Day of year (padded)".toList
  | .dayOfYear => "Day of year".toList
  | .day2 => "Day (zero-padded)".toList
  | .dayOrdinal => "Day with ordinal".toList
  | .day => "Day".toList
  | .weekdayName => "Full weekday name".toList
  | .weekdayAbbr => "Abbreviated weekday".toList
  | .weekdayMin => "Min weekday name".toList
  | .weekdayOrdinal => "Day of week ordinal".toList
  | .weekday => "Day of week (0-6)".toList
  | .localeWeekday => "Day of week (locale)".toList
  | .isoWeekday => "Day of week (ISO)".toList
  | .hour2 => "Hour 24h (zero-padded)".toList
  | .hour => "Hour 24h".toList
  | .halfDayHour2 => "Hour 12h (zero-padded)".toList
  | .halfDayHour => "Hour 12h".toList
  | .hourOneBased2 => "Hour 1-24 (zero-padded)".toList
  | .hourOneBased => "Hour 1-24".toList
  | .minute2 => "Minutes (zero-padded)".toList
  | .minute => "Minutes".toList
  | .second2 => "Seconds (zero-padded)".toList
  | .second => "Seconds".toList
  | .fraction3 => "Milliseconds (3 digits)".toList
  | .fraction2 => "Milliseconds (2 digits)".toList
  | .fraction1 => "Milliseconds (1 digit)".toList
  | .upperHalf => "AM/PM uppercase".toList
  | .lowerHalf => "am/pm lowercase".toList
  | .week2 => "Week of year (padded)".toList
  | .weekOrdinal => "Week of year ordinal".toList
  | .week => "Week of year".toList
  | .isoWeek2 => "ISO week (padded)".toList
  | .isoWeekOrdinal => "ISO week ordinal".toList
  | .isoWeek => "ISO week".toList
  | .quarterOrdinal => "Quarter ordinal".toList
  | .quarter => "Quarter".toList
  | .unixSeconds => "Unix timestamp (seconds)".toList
  | .unixMilliseconds => "Unix timestamp (ms)".toList
  | .offsetPlain => "Timezone offset".toList
  | .offsetColon => "Timezone offset (:)".toList
  | .zoneName => "Timezone name".toList
  | .zoneAbbr => "Timezone abbr".toList
  | .weekYear4 => "Locale week year".toList
  | .weekYear2 => "Locale week year (2 digit)".toList
  | .isoWeekYear4 => "ISO week year".toList
  | .isoWeekYear2 => "ISO week year (2 digit)".toList

/-- An example of what the token shows, for when no instant is at hand. -/
def sample : Token → Text
  | .year4 => "2026".toList
  | .year2 => "26".toList
  | .monthName => "January".toList
  | .monthAbbr => "Jan".toList
  | .month2 => "01".toList
  | .monthOrdinal => "1st".toList
  | .month => "1".toList
  | .dayOfYear3 => "018".toList
  | .dayOfYear => "18".toList
  | .day2 => "05".toList
  | .dayOrdinal => "5th".toList
  | .day => "5".toList
  | .weekdayName => "Monday".toList
  | .weekdayAbbr => "Mon".toList
  | .weekdayMin => "Mo".toList
  | .weekdayOrdinal => "1st".toList
  | .weekday => "1".toList
  | .localeWeekday => "1".toList
  | .isoWeekday => "1".toList
  | .hour2 => "14".toList
  | .hour => "14".toList
  | .halfDayHour2 => "02".toList
  | .halfDayHour => "2".toList
  | .hourOneBased2 => "14".toList
  | .hourOneBased => "14".toList
  | .minute2 => "05".toList
  | .minute => "5".toList
  | .second2 => "09".toList
  | .second => "9".toList
  | .fraction3 => "123".toList
  | .fraction2 => "12".toList
  | .fraction1 => "1".toList
  | .upperHalf => "PM".toList
  | .lowerHalf => "pm".toList
  | .week2 => "03".toList
  | .weekOrdinal => "3rd".toList
  | .week => "3".toList
  | .isoWeek2 => "03".toList
  | .isoWeekOrdinal => "3rd".toList
  | .isoWeek => "3".toList
  | .quarterOrdinal => "1st".toList
  | .quarter => "1".toList
  | .unixSeconds => "1737208800".toList
  | .unixMilliseconds => "1737208800000".toList
  | .offsetPlain => "+0500".toList
  | .offsetColon => "+05:00".toList
  | .zoneName => "EST".toList
  | .zoneAbbr => "EST".toList
  | .weekYear4 => "2026".toList
  | .weekYear2 => "26".toList
  | .isoWeekYear4 => "2026".toList
  | .isoWeekYear2 => "26".toList

/-- What the token is about. -/
def category : Token → TokenCategory
  | .year4 | .year2 | .weekYear4 | .weekYear2 | .isoWeekYear4 | .isoWeekYear2 => .year
  | .monthName | .monthAbbr | .month2 | .monthOrdinal | .month => .month
  | .dayOfYear3 | .dayOfYear | .day2 | .dayOrdinal | .day | .weekdayName | .weekdayAbbr
  | .weekdayMin | .weekdayOrdinal | .weekday | .localeWeekday | .isoWeekday => .day
  | .hour2 | .hour | .halfDayHour2 | .halfDayHour | .hourOneBased2 | .hourOneBased => .hour
  | .minute2 | .minute => .minute
  | .second2 | .second | .fraction3 | .fraction2 | .fraction1 => .second
  | .upperHalf | .lowerHalf => .halfDay
  | .offsetPlain | .offsetColon | .zoneName | .zoneAbbr => .zone
  | _ => .other

/-- The tokens whose symbol has the given length, in order. -/
def ofLength (length : Nat) : List Token := all.filter fun token => token.symbol.length == length

/-- All tokens, those with longer symbols first. -/
def byLength : List Token := ofLength 4 ++ ofLength 3 ++ ofLength 2 ++ ofLength 1

/-- The longest token whose symbol the text starts with. -/
def longest? (text : Text) : Option Token :=
  byLength.find? fun token => token.symbol.isPrefixOf text

/-- The token with the given symbol. -/
def ofSymbol? (text : Text) : Option Token := all.find? fun token => token.symbol == text

/-- Does the token answer a search?  The symbol starts with the query or the
description contains it; case does not matter. -/
def answers (query : Text) (token : Token) : Bool :=
  query.isPrefixOf (Text.lower token.symbol)
    || Text.occursIn query (Text.lower token.description)

/-- The tokens that answer a search; every token answers the empty one. -/
def search (query : Text) : List Token :=
  let query := Text.lower query
  if query.isEmpty then all else all.filter (answers query)

/-- The tokens of the category with the given name. -/
def inCategory (name : Text) : List Token := all.filter fun token => token.category.name == name

theorem symbol_ne_nil (token : Token) : token.symbol ≠ [] := by cases token <;> decide

/-- The tokens by length are all the tokens. -/
theorem mem_byLength (token : Token) : token ∈ byLength := by cases token <;> decide

end Token

end NoteTemplate
