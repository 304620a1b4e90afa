import NoteTemplate.Failure
import NoteTemplate.Number.Numeral
import NoteTemplate.Settings.Basic

/-!
# Settings in a JSON value

Settings are read from JSON with some tolerance.  Where a text is expected, the plain
text of any value will do; an empty value counts as missing where there is a default;
a counter may be given as a number or as its numeral; and a list may be given as a
text, for its characters, or as an object, for its names.  What remains is a failure
that tells what was missing.
-/

namespace NoteTemplate

namespace Json

/-- The field of an object; only objects have fields. -/
def field? (value : Json) (name : String) : Except Failure (Option Json) :=
  match value with
  | .obj fields => .ok (Keyed.get? name.toList fields)
  | _ => .error .missingPart

/-- The field of an object, which has to be there. -/
def field (value : Json) (name : String) : Except Failure Json := do
  match ← value.field? name with
  | some found => return found
  | none => throw (.missingField name.toList)

/-- The field of an object, unless its value is empty. -/
def filledField? (value : Json) (name : String) : Except Failure (Option Json) := do
  return (← value.field? name).filter isFilled

/-- What a value lists: the items of a list, the characters of a text, or the names of
an object. -/
def elements : Json → Except Failure (List Json)
  | .arr items => .ok items
  | .str text => .ok (text.map fun c => .str [c])
  | .obj fields => .ok (fields.map fun entry => .str entry.1)
  | .null | .bool _ | .int _ | .float _ => .error .wrongKind

/-- What a field lists; a missing field lists nothing. -/
def fieldElements (value : Json) (name : String) : Except Failure (List Json) := do
  match ← value.field? name with
  | some found => found.elements
  | none => return []

/-- The integer that a text denotes. -/
def integerOfText (text : Text) : Except Failure Int :=
  match readInteger text with
  | .ok value => .ok value
  | .error .malformed => .error (.notInteger text)
  | .error (.tooManyDigits count) => .error (.tooManyDigits (some count))

/-- The value as an integer. -/
def toInteger : Json → Except Failure Int
  | .bool value => .ok (if value then 1 else 0)
  | .int value => .ok value
  | .float (.infinite _) => .error .infiniteNumber
  | .float value =>
    match value.truncate? with
    | some whole => .ok whole
    | none => .error .notNumber
  | .str text => integerOfText text
  | .null | .arr _ | .obj _ => .error .wrongKind

end Json

/-- The names of the fields of a format. -/
def FormatConfig.fieldNames : List Text := ["output_format".toList, "custom_format".toList]

/-- The format of a half in a JSON value; fields of other names are refused. -/
def FormatConfig.ofJson (half : Half) : Json → Except Failure FormatConfig
  | .obj fields =>
    if fields.all fun entry => FormatConfig.fieldNames.contains entry.1 then
      .ok
        { outputFormat :=
            match Keyed.get? "output_format".toList fields with
            | some format => .ofJson format
            | none => .text half.defaultFormat
          customFormat :=
            match Keyed.get? "custom_format".toList fields with
            | none | some .null => none
            | some format => some (.ofJson format) }
    else .error .wrongKind
  | _ => .error .wrongKind

/-- The options of a prompt in a JSON value. -/
def optionsOfJson (value : Json) : Except Failure (List StoredText) := do
  return (← value.fieldElements "options").map .ofJson

/-- The type of values that a JSON value names. -/
def ValueType.ofJson (value : Json) : Except Failure ValueType :=
  match value.asText?.bind ValueType.ofName? with
  | some valueType => .ok valueType
  | none => .error (.unknownValueType value)

/-- A prompt in a JSON value. -/
def Prompt.ofJson (value : Json) : Except Failure Prompt := do
  let dateConfig ← value.filledField? "date_config"
  let timeConfig ← value.filledField? "time_config"
  let options ← value.filledField? "list_config"
  let name ← value.field "name"
  let valueType ← (← value.field? "value_type").elim (pure .text) ValueType.ofJson
  let isOptional := (← value.filledField? "is_optional").isSome
  let dateConfig ← dateConfig.mapM (FormatConfig.ofJson .date)
  let timeConfig ← timeConfig.mapM (FormatConfig.ofJson .time)
  let options ← options.mapM optionsOfJson
  let id ← value.field? "id"
  return {
    name := name.plainText
    valueType := valueType
    isOptional := isOptional
    dateConfig := dateConfig
    timeConfig := timeConfig
    options := options
    id := (id.map Json.plainText).getD []
    isInlineConfigured := false }

/-- A template in a JSON value.  A template without an identifier goes by its name. -/
def Template.ofJson (value : Json) : Except Failure Template := do
  let id ← (← value.filledField? "id").elim (value.field "name") pure
  let name ← value.field "name"
  let titlePattern ← value.field "title_pattern"
  let folder ← value.filledField? "folder"
  let fileTemplate ← value.filledField? "file_template"
  let counterStart ← (← value.field? "counter_starts_at").elim (pure 1) Json.toInteger
  let prompts ← (← value.fieldElements "user_prompts").mapM Prompt.ofJson
  return {
    id := id.plainText
    name := name.plainText
    titlePattern := titlePattern.plainText
    folder := (folder.map Json.plainText).getD currentFolderWord
    fileTemplate := fileTemplate.map .ofJson
    counterStart := counterStart
    prompts := prompts }

/-- Settings in a JSON value. -/
def Settings.ofJson (value : Json) : Except Failure Settings := do
  let templates ← (← value.fieldElements "templates").mapM Template.ofJson
  let folder ← value.filledField? "template_folder"
  let dateFormat ← value.filledField? "date_format"
  let timeFormat ← value.filledField? "time_format"
  return {
    templates := templates
    templateFolder := (folder.map Json.plainText).getD Settings.defaultTemplateFolder
    dateFormat := dateFormat.map .ofJson
    timeFormat := timeFormat.map .ofJson }

/-- The formats in the configuration of the note app. -/
def AppFormats.ofJson (value : Json) : Except Failure AppFormats := do
  let dateFormat ← value.filledField? "dateFormat"
  let timeFormat ← value.filledField? "timeFormat"
  return ⟨dateFormat.map .ofJson, timeFormat.map .ofJson⟩

end NoteTemplate
