import NoteTemplate.NamePattern.Basic
import NoteTemplate.Title.Filename
import NoteTemplate.Variable.Rendering

/-!
# Patterns of formats and variables

What a token or a variable can show is described by a pattern, whatever the instant.
Literal text is described as it appears in a file name.  In a format, a colon or a
bar may appear as itself or as the character that replaces it.
-/

namespace NoteTemplate

/-- A sign of an offset. -/
def signSet : CharSet := .among ['+', '-']

/-- A colon or the character that replaces it. -/
def colonSet : CharSet := .among [':', '⦂']

/-- A bar or the character that replaces it. -/
def barSet : CharSet := .among ['|', '∣']

/-- What a token can show. -/
def Token.pattern : Token → NamePattern
  | .year4 | .weekYear4 | .isoWeekYear4 => [.exactly 4 .digit]
  | .year2 | .weekYear2 | .isoWeekYear2 | .month2 | .day2 | .hour2 | .halfDayHour2
  | .hourOneBased2 | .minute2 | .second2 | .fraction2 | .week2 | .isoWeek2 =>
    [.exactly 2 .digit]
  | .monthName | .weekdayName => [.atLeastOne .letter]
  | .monthAbbr | .weekdayAbbr => [.exactly 3 .letter]
  | .weekdayMin => [.exactly 2 .letter]
  | .monthOrdinal | .dayOrdinal | .weekOrdinal | .isoWeekOrdinal =>
    [.oneOrTwoDigits, .ordinalSuffix]
  | .month | .day | .hour | .halfDayHour | .hourOneBased | .minute | .second | .week | .isoWeek =>
    [.oneOrTwoDigits]
  | .dayOfYear3 | .fraction3 => [.exactly 3 .digit]
  | .dayOfYear => [.chars .digit 1 (some 3) true]
  | .weekdayOrdinal => [.one .digit, .ordinalSuffix]
  | .weekday | .localeWeekday | .isoWeekday | .fraction1 => [.one .digit]
  | .upperHalf => [.one (.among ['A', 'P']), .one (.only 'M')]
  | .lowerHalf => [.one (.among ['a', 'p']), .one (.only 'm')]
  | .quarterOrdinal => [.one (.range '1' '4'), .ordinalSuffix]
  | .quarter => [.one (.range '1' '4')]
  | .unixSeconds | .unixMilliseconds => [.atLeastOne .digit]
  | .offsetPlain => [.one signSet, .exactly 4 .digit]
  | .offsetColon => [.one signSet, .exactly 2 .digit, .one colonSet, .exactly 2 .digit]
  | .zoneName | .zoneAbbr => [.chars .letter 0 none true]

/-- What a literal character of a format can be in a file name; nothing when it is
deleted. -/
def formatCharPattern (c : Char) : NamePattern :=
  if c = ':' then [.one colonSet]
  else if c = '|' then [.one barSet]
  else if isForbiddenInFilename c || isControl c then []
  else [.one (.only c)]

/-- What a piece of a format can show. -/
def FormatPiece.pattern : FormatPiece → NamePattern
  | .token shown => shown.pattern
  | .literal kept => kept.flatMap formatCharPattern

/-- What a format can show. -/
def formatPattern (format : Text) : NamePattern :=
  (formatPieces format).flatMap FormatPiece.pattern

/-- What a stored format can show. -/
def StoredText.pattern (format : StoredText) : Except Failure NamePattern := do
  return (← format.formatPieces).flatMap FormatPiece.pattern

/-- A literal text as it appears in a file name. -/
def literalPattern (text : Text) : NamePattern := NamePattern.ofText (cleanCharacters text)

/-- What a variable with an optional format can show in a title. -/
def Variable.pattern (settings : DateTimeSettings) (format : Option Text) :
    Variable → Except Failure NamePattern
  | .counter => .ok [.atLeastOne .digit]
  | .date =>
    match format with
    | some format => .ok (formatPattern format)
    | none => settings.dateFormat.pattern
  | .time => .ok (formatPattern (format.getD filenameTimeFormat))
  | .datetime =>
    match format with
    | some format => .ok (formatPattern format)
    | none => do
      return (← settings.dateFormat.pattern) ++ .one (.only '_')
        :: formatPattern filenameTimeFormat
  | .timestamp => .ok [.chars .digit 10 (some 13) true]
  | .year => .ok [.exactly 4 .digit]
  | .month | .day => .ok [.exactly 2 .digit]
  | .title => .ok [.gap]

/-- What the variable with the given name, in any case, can show in a title.  An
unknown variable can show anything. -/
def variablePattern (settings : DateTimeSettings) (name : Text) (format : Option Text) :
    Except Failure NamePattern :=
  match Variable.ofName? (Text.lower name) with
  | some known => known.pattern settings (format.filter fun format => !format.isEmpty)
  | none => .ok [.gap]

end NoteTemplate
