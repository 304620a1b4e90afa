import NoteTemplate.Prompt.Content

/-!
# Reading a prompt

The content of a tag gives a prompt, whatever it is: a type that is not known makes
a text prompt, and a detail that names no preset is a format of its own.  A prompt
has the configuration that its type needs, and no other.
-/

namespace NoteTemplate

/-- The configuration that a word means for a half: nothing is the default, then a
preset's name, then (when `formats` is set) a preset's format, and anything else is
a format of its own. -/
def FormatConfig.ofWord (half : Half) (formats : Bool) (word : Text) : FormatConfig :=
  if word.isEmpty then .default half
  else
    match half.presetFormat? word with
    | some format => .plain format
    | none => if formats && half.isPresetFormat word then .plain word else .custom word

/-- The preset format that a word means for a half, by name or by format. -/
def Half.formatOfWord? (half : Half) (word : Text) : Option Text :=
  match half.presetFormat? word with
  | some format => some format
  | none => if half.isPresetFormat word then some word else none

/-- The configurations of the two halves. -/
structure HalfConfigs where
  date : FormatConfig
  time : FormatConfig
deriving DecidableEq, Repr

/-- Both halves by default. -/
def HalfConfigs.default : HalfConfigs := ⟨.default .date, .default .time⟩

/-- Read the detail of a date with time.  A comma separates the two halves, where
only the name of a preset selects one.  Without a comma, a preset of either half
leaves the other one at its default, and any other text is one format for both. -/
def HalfConfigs.ofWord (word : Text) : HalfConfigs :=
  match Text.cutAt? ',' word with
  | some (date, time) =>
    ⟨.ofWord .date false (Text.trim date), .ofWord .time false (Text.trim time)⟩
  | none =>
    match Half.formatOfWord? .date word, Half.formatOfWord? .time word with
    | none, none => ⟨.custom word, .custom word⟩
    | date, time =>
      ⟨(date.map FormatConfig.plain).getD (.default .date),
        (time.map FormatConfig.plain).getD (.default .time)⟩

namespace PromptContent

/-- The custom format in the content, if there is one. -/
def customFormat? (content : PromptContent) : Option Text :=
  match content.reading? with
  | some (.custom _ format _) => some format.text
  | _ => none

/-- The text of the detail, if it is neither empty nor a custom format. -/
def word? (content : PromptContent) : Option Text :=
  if content.customFormat?.isSome then none
  else (content.detail?.map Segment.text).filter fun word => !word.isEmpty

/-- The configurations of the two halves, for a type that may have them. -/
def halfConfigs (content : PromptContent) (valueType : ValueType) : HalfConfigs :=
  match content.customFormat?, content.word? with
  | some format, _ => ⟨.custom format, .custom format⟩
  | none, none => .default
  | none, some word =>
    match valueType with
    | .datetime => .ofWord word
    | _ => ⟨.ofWord .date true word, .ofWord .time true word⟩

/-- The options that the detail lists. -/
def optionTexts (content : PromptContent) : List Text :=
  match content.reading? with
  | some (.items split) => split.items.map Segment.text
  | _ => []

end PromptContent

/-- The prompt that a content describes, without an identifier. -/
def Prompt.ofContent (text : Text) (isOptional : Bool) : Prompt :=
  let content := PromptContent.ofText text
  let valueType := content.valueType?.getD .text
  let configs := content.halfConfigs valueType
  { name := content.name.text
    valueType := valueType
    isOptional := isOptional
    dateConfig := if valueType.hasDate then some configs.date else none
    timeConfig := if valueType.hasTime then some configs.time else none
    options :=
      if valueType.hasOptions then some (content.optionTexts.map StoredText.text) else none
    id := []
    isInlineConfigured := content.valueType?.isSome }

namespace Prompt

@[simp]
theorem name_ofContent (text : Text) (isOptional : Bool) :
    (ofContent text isOptional).name = promptName text := rfl

end Prompt

end NoteTemplate
