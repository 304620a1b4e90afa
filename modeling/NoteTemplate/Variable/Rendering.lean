import NoteTemplate.Format.Stored
import NoteTemplate.Text.Replacement
import NoteTemplate.Variable.Basic
import NoteTemplate.Variable.Tag

/-!
# The values of variables

What a variable shows depends on the clock, on the configured formats, on the
counter, and on the place it stands in.  In a file name a time has no colons by
default, and a counter that is not known is shown as `#`.  In the text of a note the
configured time format is used, and the title is known.
-/

namespace NoteTemplate

/-- The formats that the user has configured. -/
structure DateTimeSettings where
  dateFormat : StoredText
  timeFormat : StoredText
deriving DecidableEq, Repr

/-- The formats when nothing is configured. -/
def DateTimeSettings.default : DateTimeSettings :=
  ⟨.text "YYYY-MM-DD".toList, .text "HH:mm".toList⟩

/-- The place that a variable is shown in. -/
inductive Place where
  | filename
  | note (title : Option Text)
deriving DecidableEq, Repr

/-- All that the values of variables depend on. -/
structure RenderContext where
  settings : DateTimeSettings
  instant : Instant
  counter : Option Int
  place : Place

/-- The time format of a file name, where colons are not allowed. -/
def filenameTimeFormat : Text := "HH-mm-ss".toList

/-- A counter in text; one with too many digits is not written. -/
def counterText (counter : Int) : Except Failure Text :=
  if (decimal counter.natAbs).length ≤ maxNumeralDigits then .ok (signedDecimal counter)
  else .error (.tooManyDigits none)

theorem counterText_natCast {number : Nat} {shown : Text}
    (h : counterText (number : Int) = .ok shown) :
    shown = decimal number ∧ (decimal number).length ≤ maxNumeralDigits := by
  rw [counterText, Int.natAbs_natCast] at h
  split at h
  · next hlength =>
    rw [signedDecimal_natCast] at h
    exact ⟨(Except.ok.inj h).symm, hlength⟩
  · simp at h

namespace RenderContext

/-- The time format of the place. -/
def timeFormat (context : RenderContext) : StoredText :=
  match context.place with
  | .filename => .text filenameTimeFormat
  | .note _ => context.settings.timeFormat

/-- What stands between a date and a time in the place. -/
def separator (context : RenderContext) : Char :=
  match context.place with
  | .filename => '_'
  | .note _ => ' '

variable [LocalZone]

/-- The value of a variable with an optional format, which is not empty.  `none`
means that the variable has no value in the place. -/
def render (context : RenderContext) (wanted : Variable) (format : Option Text) :
    Except Failure (Option Text) :=
  let instant := context.instant
  let given := format.map StoredText.text
  match wanted with
  | .date => some <$> instant.formatStored (given.getD context.settings.dateFormat)
  | .time => some <$> instant.formatStored (given.getD context.timeFormat)
  | .datetime =>
    match given with
    | some format => some <$> instant.formatStored format
    | none => do
      let date ← instant.formatStored context.settings.dateFormat
      let time ← instant.formatStored context.timeFormat
      return some (date ++ context.separator :: time)
  | .timestamp =>
    match instant.unixMilliseconds with
    | .ok milliseconds => .ok (some (signedDecimal milliseconds))
    | .error error => .error (.calendar error)
  | .year => some <$> instant.formatStored (.text "YYYY".toList)
  | .month => some <$> instant.formatStored (.text "MM".toList)
  | .day => some <$> instant.formatStored (.text "DD".toList)
  | .counter =>
    match context.counter, context.place with
    | some counter, _ => some <$> counterText counter
    | none, .filename => .ok (some ['#'])
    | none, .note _ => .ok none
  | .title =>
    match context.place with
    | .filename => .ok none
    | .note title => .ok title

/-- The value of the variable with the given name, in any case; an empty format
counts as none. -/
def renderNamed (context : RenderContext) (name : Text) (format : Option Text) :
    Except Failure (Option Text) :=
  match Variable.ofName? (Text.lower name) with
  | some wanted => context.render wanted (format.filter fun format => !format.isEmpty)
  | none => .ok none

/-- The value of the variable that a tag names. -/
def renderTag (context : RenderContext) (tag : VariableTag) : Except Failure (Option Text) :=
  context.renderNamed tag.name tag.format

end RenderContext

variable [LocalZone]

/-- The text of a note with its variables filled.  Tags without a value stay as they
are. -/
def fillVariables (context : RenderContext) (text : Text) : Except Failure Text := do
  let replacements ← (variableTags text).filterMapM fun found => do
    return (← context.renderTag found.value).map fun value => (found.span, value)
  return Text.replaceSpans replacements text

/-- The names of the variables with their values, the counter apart. -/
def variableValues (settings : DateTimeSettings) (instant : Instant) :
    Except Failure (List (Variable × Text)) :=
  let context : RenderContext := ⟨settings, instant, none, .filename⟩
  (Variable.forTitles.filter (· ≠ .counter)).mapM fun wanted => do
    return (wanted, (← context.render wanted none).getD [])

end NoteTemplate
