import NoteTemplate.Calendar.Instant
import NoteTemplate.Text.Blank
import NoteTemplate.Text.Digit

/-!
# Dates and times as they are entered

A date is entered as `2024-03-05`, a time as `14:05` or `2:05 PM`, and a date with
time as `2024-03-05T14:05` with optional seconds.  Digits may be those of any
script, and one line feed may follow.  Numbers that no calendar or clock has are
refused.
-/

namespace NoteTemplate

namespace Picker

/-- Take a number of digits. -/
def takeDigits? (count : Nat) (text : Text) : Option (Nat × Text) :=
  let digits := text.take count
  if digits.length = count ∧ digits.all isDigit then some (digitsValue digits, text.drop count)
  else none

/-- Take one or two digits, as many as there are. -/
def takeOneOrTwoDigits? (text : Text) : Option (Nat × Text) :=
  match takeDigits? 2 text with
  | some taken => some taken
  | none => takeDigits? 1 text

/-- Take a given character. -/
def takeChar? (c : Char) : Text → Option Text
  | [] => none
  | d :: rest => if d = c then some rest else none

/-- Nothing is left, or one line feed. -/
def isEnd (rest : Text) : Bool := rest = [] || rest = ['\n']

/-- Year, month and day at the start of a text. -/
def takeDate? (text : Text) : Option (Date × Text) := do
  let (year, rest) ← takeDigits? 4 text
  let rest ← takeChar? '-' rest
  let (month, rest) ← takeDigits? 2 rest
  let rest ← takeChar? '-' rest
  let (day, rest) ← takeDigits? 2 rest
  let date ← Date.ofNumbers? year month day
  return (date, rest)

/-- The half of the day at the start of a text: is it the second one? -/
def takeHalf? : Text → Option (Bool × Text)
  | half :: m :: rest =>
    if m.toUpper = 'M' then
      if half.toUpper = 'A' then some (false, rest)
      else if half.toUpper = 'P' then some (true, rest)
      else none
    else none
  | _ => none

/-- The hour of the day for an hour on a clock with twelve. -/
def hourOfHalf (hour : Nat) (second : Bool) : Nat :=
  if second then (if hour = 12 then 12 else hour + 12) else (if hour = 12 then 0 else hour)

end Picker

open Picker

/-- The date that was entered. -/
def readDate? (text : Text) : Option Date := do
  let (date, rest) ← takeDate? text
  if isEnd rest then return date else none

/-- The time of day that was entered. -/
def readTime? (text : Text) : Option ClockTime := do
  let (hour, rest) ← takeOneOrTwoDigits? text
  let rest ← takeChar? ':' rest
  let (minute, rest) ← takeDigits? 2 rest
  if isEnd rest then ClockTime.ofNumbers? hour minute 0 0
  else
    let (second, rest) ← takeHalf? (Text.trimLeft rest)
    if isEnd rest && 1 ≤ hour && hour ≤ 12 then
      ClockTime.ofNumbers? (hourOfHalf hour second) minute 0 0
    else none

/-- The date with time that was entered, as a local instant. -/
def readDatetime? (text : Text) : Option Instant := do
  let (date, rest) ← takeDate? text
  let rest ← takeChar? 'T' rest
  let (hour, rest) ← takeDigits? 2 rest
  let rest ← takeChar? ':' rest
  let (minute, rest) ← takeDigits? 2 rest
  let (second, rest) ←
    if isEnd rest then some (0, rest) else (takeChar? ':' rest).bind (takeDigits? 2)
  if isEnd rest then
    let time ← ClockTime.ofNumbers? hour minute second 0
    return ⟨date, time, none, false⟩
  else none

end NoteTemplate
