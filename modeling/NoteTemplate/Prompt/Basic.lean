import NoteTemplate.Format.Stored
import NoteTemplate.Text.Blank

/-!
# Prompts

A prompt is a question that a template asks: a name, the type of its value, and the
configuration that the type needs.  Dates and times have an output format each; a
date with time has both halves.  The two halves differ only in their presets and in
the format used when none is given.

Two prompts are the same question when everything but their identifier and the
place of their configuration agrees.
-/

namespace NoteTemplate

/-- The types of prompt values. -/
inductive ValueType where
  | text | numeric | date | time | datetime | list | multilist
deriving DecidableEq, Repr

namespace ValueType

/-- All types of values. -/
def all : List ValueType := [.text, .numeric, .date, .time, .datetime, .list, .multilist]

/-- The name of a type. -/
def name : ValueType → Text
  | .text => "text".toList
  | .numeric => "numeric".toList
  | .date => "date".toList
  | .time => "time".toList
  | .datetime => "datetime".toList
  | .list => "list".toList
  | .multilist => "multilist".toList

/-- The word for a type inside a prompt. -/
def word : ValueType → Text
  | .numeric => "number".toList
  | valueType => valueType.name

/-- The type with the given name. -/
def ofName? (name : Text) : Option ValueType := all.find? fun valueType => valueType.name = name

/-- The type that a word inside a prompt stands for.  The name and the word of a type
both count, in any case and with blanks around them. -/
def resolve? (word : Text) : Option ValueType :=
  let word := Text.lower (Text.trim word)
  all.find? fun valueType => valueType.name = word || valueType.word = word

/-- Has a value of the type a date? -/
def hasDate : ValueType → Bool
  | .date | .datetime => true
  | _ => false

/-- Has a value of the type a time of day? -/
def hasTime : ValueType → Bool
  | .time | .datetime => true
  | _ => false

/-- Is a value of the type chosen from options? -/
def hasOptions : ValueType → Bool
  | .list | .multilist => true
  | _ => false

theorem ofName?_name (valueType : ValueType) : ofName? valueType.name = some valueType := by
  cases valueType <;> decide

end ValueType

/-- The two halves that a date with time has. -/
inductive Half where
  | date | time
deriving DecidableEq, Repr

namespace Half

/-- The named formats of a half, in the order in which they are offered. -/
def presets : Half → List (Text × Text)
  | .date =>
    [("ISO".toList, "YYYY-MM-DD".toList), ("compact".toList, "YYYYMMDD".toList),
     ("US".toList, "MM-DD-YYYY".toList), ("EU".toList, "DD-MM-YYYY".toList),
     ("short".toList, "MMM DD, YYYY".toList), ("long".toList, "MMMM DD, YYYY".toList)]
  | .time =>
    [("ISO".toList, "HH:mm:ss".toList), ("24-hour".toList, "HH:mm".toList),
     ("24-compact".toList, "HHmm".toList), ("12-hour".toList, "h:mm A".toList),
     ("12-padded".toList, "hh:mm A".toList)]

/-- The format of a half when none is given. -/
def defaultFormat : Half → Text
  | .date => "YYYY-MM-DD".toList
  | .time => "h:mm A".toList

/-- The format of the preset with the given name, in any case. -/
def presetFormat? (half : Half) (name : Text) : Option Text :=
  let name := Text.lower name
  (half.presets.find? fun preset => Text.lower preset.1 = name).map Prod.snd

/-- The name of the preset with the given format. -/
def presetName? (half : Half) (format : Text) : Option Text :=
  (half.presets.find? fun preset => preset.2 = format).map Prod.fst

/-- Is the text the format of a preset? -/
def isPresetFormat (half : Half) (format : Text) : Bool :=
  half.presets.any fun preset => preset.2 = format

end Half

/-- The word that stands for a format of its own. -/
def customWord : Text := "custom".toList

/-- The output format of one half: a format, or the word `custom` together with a
format of its own. -/
structure FormatConfig where
  outputFormat : StoredText
  customFormat : Option StoredText
deriving DecidableEq, Repr

namespace FormatConfig

/-- The configuration with a format that is not custom. -/
def plain (format : Text) : FormatConfig := ⟨.text format, none⟩

/-- The configuration with a format of its own. -/
def custom (format : Text) : FormatConfig := ⟨.text customWord, some (.text format)⟩

/-- The configuration when none is given. -/
def default (half : Half) : FormatConfig := plain half.defaultFormat

def isCustom (config : FormatConfig) : Bool := config.outputFormat = .text customWord

/-- The format in use.  A custom format that is empty is replaced by the default. -/
def effective (half : Half) (config : FormatConfig) : StoredText :=
  if config.isCustom then
    match config.customFormat with
    | some format => if format.isFilled then format else .text half.defaultFormat
    | none => .text half.defaultFormat
  else config.outputFormat

end FormatConfig

/-- A question that a template asks. -/
structure Prompt where
  name : Text
  valueType : ValueType
  isOptional : Bool
  dateConfig : Option FormatConfig
  timeConfig : Option FormatConfig
  options : Option (List StoredText)
  /-- The identifier under which the value of the prompt is kept. -/
  id : Text
  /-- Does the template itself give the type? -/
  isInlineConfigured : Bool
deriving DecidableEq, Repr

namespace Prompt

/-- Prompts whose names differ only in case are one prompt. -/
def key (prompt : Prompt) : Text := Text.lower prompt.name

/-- The prompt without identifier and without the mark of its configuration. -/
def question (prompt : Prompt) : Prompt := { prompt with id := [], isInlineConfigured := false }

/-- The configuration of a half, or the default one. -/
def config (half : Half) (prompt : Prompt) : FormatConfig :=
  match half with
  | .date => prompt.dateConfig.getD (.default .date)
  | .time => prompt.timeConfig.getD (.default .time)

/-- The options to choose from; none when there is no list. -/
def optionList (prompt : Prompt) : List StoredText := prompt.options.getD []

/-- The last of the prompts with the given key. -/
def find? (prompts : List Prompt) (key : Text) : Option Prompt :=
  prompts.reverse.find? fun prompt => prompt.key = key

theorem key_of_find? {prompts : List Prompt} {key : Text} {prompt : Prompt}
    (h : find? prompts key = some prompt) : prompt.key = key := by
  simpa using List.find?_some h

end Prompt

end NoteTemplate
