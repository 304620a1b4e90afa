import NoteTemplate.Text.Basic

/-!
# Variables

Eight variables have a value in every template, and the title of a note is known
while its text is written.
-/

namespace NoteTemplate

/-- The values that a template can ask for without asking the user. -/
inductive Variable where
  | date | time | datetime | timestamp | year | month | day | counter | title
deriving DecidableEq, Repr

namespace Variable

def name : Variable → Text
  | .date => "date".toList
  | .time => "time".toList
  | .datetime => "datetime".toList
  | .timestamp => "timestamp".toList
  | .year => "year".toList
  | .month => "month".toList
  | .day => "day".toList
  | .counter => "counter".toList
  | .title => "title".toList

/-- The variables that a title may have, in the order in which they are offered. -/
def forTitles : List Variable :=
  [.date, .time, .datetime, .timestamp, .year, .month, .day, .counter]

/-- All variables. -/
def all : List Variable := forTitles ++ [.title]

/-- What the variable shows, in words. -/
def description : Variable → Text
  | .date => "Current date (settings format, or \x7b\x7bdate:FORMAT\x7d\x7d)".toList
  | .time => "Current time (HH-mm-ss in titles, or \x7b\x7btime:FORMAT\x7d\x7d)".toList
  | .datetime => "Date and time (or \x7b\x7bdatetime:FORMAT\x7d\x7d)".toList
  | .timestamp => "Milliseconds since the Unix epoch".toList
  | .year => "4-digit year".toList
  | .month => "Month (zero-padded)".toList
  | .day => "Day of month (zero-padded)".toList
  | .counter => "Next free number for this title".toList
  | .title => []

/-- The variable with the given name, which is in lower case. -/
def ofName? (name : Text) : Option Variable := all.find? fun known => known.name = name

theorem ofName?_name (known : Variable) : ofName? known.name = some known := by
  cases known <;> decide

end Variable

end NoteTemplate
