import NoteTemplate.Format.Stored
import NoteTemplate.Prompt.Basic
import NoteTemplate.Value.Picker

/-!
# Values in their output format

A value that was entered for a date or a time is put into the format of its prompt
before it is filled in.  A value that cannot be read is filled in as it is.
-/

namespace NoteTemplate

/-- The first moment of a date. -/
def Date.start (date : Date) : Instant := ⟨date, .midnight, none, false⟩

variable [LocalZone]

/-- A date in the format of a configuration. -/
def showDate (config : FormatConfig) (instant : Instant) : Except Failure Text :=
  instant.formatStored (config.effective .date)

/-- A time of day in the format of a configuration; `today` fills the place of a
date. -/
def showTime (config : FormatConfig) (today : Date) (time : ClockTime) : Except Failure Text :=
  Instant.formatStored ⟨today, time, none, false⟩ (config.effective .time)

/-- A date with time.  The letter `T` joins the halves when both have the formats of
ISO 8601, and a space otherwise. -/
def showDatetime (date time : FormatConfig) (instant : Instant) : Except Failure Text := do
  let dateFormat := date.effective .date
  let timeFormat := time.effective .time
  let isIso := dateFormat = .text "YYYY-MM-DD".toList ∧ timeFormat = .text "HH:mm:ss".toList
  let shownDate ← instant.formatStored dateFormat
  let shownTime ← instant.formatStored timeFormat
  return shownDate ++ (if isIso then 'T' else ' ') :: shownTime

namespace Prompt

/-- The date that was entered, in the format of the prompt.  A custom format that
shows a time of day gets the time of the clock. -/
def showDateValue (prompt : Prompt) (now : Instant) (date : Date) : Except Failure Text := do
  let config := prompt.config .date
  let format := config.effective .date
  if config.isCustom && (← format.hasTimeTokens) then
    Instant.formatStored ⟨date, now.time, none, now.isLater⟩ format
  else date.start.formatStored format

/-- The date with time that was entered, in the format of the prompt.  One custom
format for both halves describes the whole value. -/
def showDatetimeValue (prompt : Prompt) (instant : Instant) : Except Failure Text := do
  let date := prompt.config .date
  let time := prompt.config .time
  if !date.isCustom && !time.isCustom then showDatetime date time instant
  else
    let dateFormat := date.effective .date
    let timeFormat := time.effective .time
    if date.isCustom && time.isCustom && dateFormat = timeFormat then
      instant.formatStored dateFormat
    else
      let shownDate ← instant.formatStored dateFormat
      let shownTime ← instant.formatStored timeFormat
      return shownDate ++ ' ' :: shownTime

/-- The value as it is filled in.  `now` gives the time for a date format that shows
one, and `today` the date for a time format that shows one. -/
def showValue (prompt : Prompt) (today : Date) (now : Instant) (value : Text) :
    Except Failure Text :=
  match prompt.valueType with
  | .date =>
    match readDate? value with
    | some date => prompt.showDateValue now date
    | none => .ok value
  | .time =>
    match readTime? value with
    | some time => showTime (prompt.config .time) today time
    | none => .ok value
  | .datetime =>
    match readDatetime? value with
    | some instant => prompt.showDatetimeValue instant
    | none => .ok value
  | .text | .numeric | .list | .multilist => .ok value

end Prompt

end NoteTemplate
