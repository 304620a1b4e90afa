import NoteTemplate.Prompt.Extraction
import NoteTemplate.Text.Replacement

/-!
# Writing a prompt

A prompt is written with as little as is needed: no type for a text, no detail for
default formats, and the name of a preset instead of its format.  Formats of their
own are wrapped in `format(...)`, except where the two halves of a date with time
differ.
-/

namespace NoteTemplate

/-- The tag with the given content. -/
def writeTag (content : Text) (isOptional : Bool) : Text :=
  if isOptional then "\x7b%? ".toList ++ content ++ " ?%\x7d".toList
  else "\x7b% ".toList ++ content ++ " %\x7d".toList

namespace FormatConfig

/-- The text of the custom format, empty when there is none. -/
def customText (config : FormatConfig) : Text :=
  match config.customFormat with
  | some format => if format.isFilled then format.plainText else []
  | none => []

/-- The custom format in its parentheses. -/
def wrapped (config : FormatConfig) : Text := formatOpening ++ config.customText ++ [')']

/-- The word for a half that stands by itself: the custom format, the name of a
preset, or the format. -/
def word (half : Half) (config : FormatConfig) : Text :=
  if config.isCustom then config.customText
  else
    match config.outputFormat with
    | .text format => (half.presetName? format).getD format
    | stored => stored.plainText

/-- The detail of a prompt with one half only. -/
def detail? (half : Half) (config : FormatConfig) : Option Text :=
  if config.isCustom then some config.wrapped
  else if config = .default half then none
  else some (config.word half)

end FormatConfig

namespace Prompt

/-- The detail of a date with time. -/
def datetimeDetail? (date time : FormatConfig) : Option Text :=
  if date.isCustom && time.isCustom && date.customFormat = time.customFormat then
    some date.wrapped
  else if date = .default .date ∧ time = .default .time then none
  else
    let dateWord := date.word .date
    let timeWord := time.word .time
    some (if dateWord = timeWord then dateWord else dateWord ++ ',' :: timeWord)

/-- The text behind the second colon. -/
def detail? (prompt : Prompt) : Option Text :=
  match prompt.valueType with
  | .date => (prompt.config .date).detail? .date
  | .time => (prompt.config .time).detail? .time
  | .datetime => datetimeDetail? (prompt.config .date) (prompt.config .time)
  | .list | .multilist =>
    if prompt.optionList.isEmpty then none
    else some (Text.join [','] (prompt.optionList.map StoredText.plainText))
  | .text | .numeric => none

/-- The content of the tag that is written for the prompt. -/
def content (prompt : Prompt) : Text :=
  match prompt.valueType with
  | .text => prompt.name
  | valueType =>
    let detail := (prompt.detail?).getD []
    prompt.name ++ ':' :: valueType.word
      ++ (if detail.isEmpty then [] else ':' :: detail)

/-- The tag that is written for the prompt. -/
def tag (prompt : Prompt) : Text := writeTag prompt.content prompt.isOptional

end Prompt

/-- The text with every tag of the given name replaced by the tag of a prompt.  The
name counts without blanks at its ends and in any case. -/
def replaceTags (tags : List TagOccurrence) (name : Text) (prompt : Prompt) (text : Text) :
    Text :=
  let target := Text.lower (Text.trim name)
  let replaced := tags.filter fun found =>
    Text.lower (promptName found.value.content) = target
  Text.replaceSpans (replaced.map fun found => (found.span, prompt.tag)) text

end NoteTemplate
