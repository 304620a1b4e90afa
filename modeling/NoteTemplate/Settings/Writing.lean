import NoteTemplate.Json.Writer
import NoteTemplate.Settings.Basic

/-!
# Settings as a JSON value

Settings are written with every field of a template, and with those configurations of a
prompt that it has.  Whether a template itself gives the type of a prompt is not
written: it shows in the title pattern.
-/

namespace NoteTemplate

namespace Json

/-- An object with the given fields. -/
def ofFields (fields : List (String × Json)) : Json :=
  .obj (fields.map fun entry => (entry.1.toList, entry.2))

/-- A stored text, or null. -/
def ofStored? : Option StoredText → Json
  | some stored => stored.toJson
  | none => .null

end Json

/-- The format of a half as a JSON value. -/
def FormatConfig.toJson (config : FormatConfig) : Json :=
  .ofFields
    [("output_format", config.outputFormat.toJson),
     ("custom_format", .ofStored? config.customFormat)]

/-- The options of a prompt as a JSON value. -/
def optionsToJson (options : List StoredText) : Json :=
  .ofFields [("options", .arr (options.map StoredText.toJson))]

/-- A prompt as a JSON value. -/
def Prompt.toJson (prompt : Prompt) : Json :=
  .ofFields
    ([("id", .str prompt.id), ("name", .str prompt.name),
      ("value_type", .str prompt.valueType.name), ("is_optional", .bool prompt.isOptional)]
      ++ (prompt.dateConfig.map fun config => ("date_config", config.toJson)).toList
      ++ (prompt.timeConfig.map fun config => ("time_config", config.toJson)).toList
      ++ (prompt.options.map fun options => ("list_config", optionsToJson options)).toList)

/-- A template as a JSON value. -/
def Template.toJson (template : Template) : Json :=
  .ofFields
    [("id", .str template.id), ("name", .str template.name),
     ("title_pattern", .str template.titlePattern), ("folder", .str template.folder),
     ("file_template", .ofStored? template.fileTemplate),
     ("counter_starts_at", .int template.counterStart),
     ("user_prompts", .arr (template.prompts.map Prompt.toJson))]

/-- Settings as a JSON value. -/
def Settings.toJson (settings : Settings) : Json :=
  .ofFields
    [("template_folder", .str settings.templateFolder),
     ("date_format", .ofStored? settings.dateFormat),
     ("time_format", .ofStored? settings.timeFormat),
     ("templates", .arr (settings.templates.map Template.toJson))]

/-- The text of a settings file. -/
def Settings.write (settings : Settings) : Text := settings.toJson.write ++ ['\n']

end NoteTemplate
