import NoteTemplate.Editor.Context
import NoteTemplate.Prompt.Basic
import NoteTemplate.Variable.Rendering

/-!
# Completions

For what is being typed there is a list of completions, each with the text that it
inserts in place of the query.  A completion is kept when its label starts with the
query or its description contains it, in any case; the rule is a little different
for names and variables.
-/

namespace NoteTemplate

/-- What a completion stands for. -/
inductive SuggestionKind where
  | variable | grammar | valueType | dateFormat | timeFormat | customFormat | formatToken | preview
deriving DecidableEq, Repr

/-- The name of a kind. -/
def SuggestionKind.label : SuggestionKind → Text
  | .variable => "variable".toList
  | .grammar => "syntax".toList
  | .valueType => "valueType".toList
  | .dateFormat => "dateFormat".toList
  | .timeFormat => "timeFormat".toList
  | .customFormat => "customFormat".toList
  | .formatToken => "formatToken".toList
  | .preview => "preview".toList

/-- A completion that is offered. -/
structure Suggestion where
  label : Text
  description : Text
  insertText : Text
  kind : SuggestionKind
  example? : Option Text
  category : Option TokenCategory
deriving DecidableEq, Repr

namespace Suggestion

/-- A completion without an example. -/
def simple (kind : SuggestionKind) (label description insertText : String) : Suggestion :=
  ⟨label.toList, description.toList, insertText.toList, kind, none, none⟩

/-- A preview shows the value of a format and inserts nothing. -/
def isPreview (suggestion : Suggestion) : Bool := suggestion.kind = .preview

/-- Does the completion answer a query in lower case? -/
def answers (query : Text) (suggestion : Suggestion) : Bool :=
  query.isPrefixOf (Text.lower suggestion.label)
    || Text.occursIn query (Text.lower suggestion.description)

/-- The completions that answer a query; the empty query keeps all. -/
def filter (query : Text) (suggestions : List Suggestion) : List Suggestion :=
  let query := Text.lower query
  if query.isEmpty then suggestions else suggestions.filter (answers query)

/-- The forms of a prompt. -/
def forOpening : List Suggestion :=
  [simple .grammar "\x7b% Name %\x7d" "Required text prompt" " Name %\x7d",
   simple .grammar "\x7b%? Name ?%\x7d" "Optional text prompt (use \x7b%? to start)"
     " Name ?%\x7d",
   simple .grammar "\x7b% Name:text %\x7d" "Explicit text type" " Name:text %\x7d",
   simple .grammar "\x7b% Name:number %\x7d" "Numeric input only" " Name:number %\x7d",
   simple .grammar "\x7b% Name:date %\x7d" "Date picker input" " Name:date %\x7d",
   simple .grammar "\x7b% Name:time %\x7d" "Time picker input" " Name:time %\x7d",
   simple .grammar "\x7b% Name:datetime %\x7d" "Date and time picker" " Name:datetime %\x7d",
   simple .grammar "\x7b% Name:list:a,b %\x7d" "Pick one option" " Name:list:a,b %\x7d",
   simple .grammar "\x7b% Name:multilist:a,b %\x7d" "Pick several options"
     " Name:multilist:a,b %\x7d"]

/-- What can follow a name. -/
def behindName : List Suggestion :=
  [simple .grammar "%\x7d" "Close prompt (text type)" " %\x7d",
   simple .grammar ":text %\x7d" "Text type with explicit closing" ":text %\x7d",
   simple .grammar ":number %\x7d" "Numeric input" ":number %\x7d",
   simple .grammar ":date" "Date picker (add format after)" ":date:",
   simple .grammar ":time" "Time picker (add format after)" ":time:",
   simple .grammar ":datetime" "DateTime picker (add format after)" ":datetime:",
   simple .grammar ":list" "Single choice (add options after)" ":list:",
   simple .grammar ":multilist" "Multiple choice (add options after)" ":multilist:"]

/-- What can follow a name that contains the query. -/
def forName (query : Text) : List Suggestion :=
  let query := Text.lower query
  if query.isEmpty then behindName
  else behindName.filter fun suggestion =>
    Text.occursIn query (Text.lower suggestion.label)
      || Text.occursIn query (Text.lower suggestion.description)

/-- The types of values. -/
def forValueType (query : Text) : List Suggestion :=
  filter query
    [simple .valueType "text" "Free-form text input" "text %\x7d",
     simple .valueType "number" "Numeric input only" "number %\x7d",
     simple .valueType "date" "Date picker (continue typing : for format)" "date:",
     simple .valueType "time" "Time picker (continue typing : for format)" "time:",
     simple .valueType "datetime" "Date and time picker (continue typing : for format)"
       "datetime:",
     simple .valueType "list" "Single choice from options (add :a,b,c)" "list:",
     simple .valueType "multilist" "Multiple choices from options (add :a,b,c)" "multilist:"]

variable [LocalZone]

/-- The text of an instant, where a failure belongs to the calendar. -/
def shown (instant : Instant) (format : Text) : Except Failure Text :=
  (instant.format format).mapError Failure.calendar

/-- The end of a prompt, directly behind what was chosen. -/
def closing : Text := " %\x7d".toList

/-- The presets of a half, with examples.  Behind a preset stands `ending`. -/
def presets (half : Half) (kind : SuggestionKind) (title : String) (ending : Text)
    (instant : Instant) : Except Failure (List Suggestion) :=
  half.presets.mapM fun (name, format) => do
    return ⟨name, title.toList ++ format, name ++ ending, kind, some (← shown instant format), none⟩

/-- The offer to write a format of one's own. -/
def customFormat (description sample : String) : Suggestion :=
  ⟨"format(...)".toList, description.toList, "format(".toList, .customFormat,
    some sample.toList, none⟩

/-- The presets for a type.  A date with time takes a date first, then a comma and a
time. -/
def forFormat (context : TypingContext) (instant : Instant) :
    Except Failure (List Suggestion) := do
  let valueType := context.valueType.getD []
  let isDate : Bool := valueType = ValueType.date.name
  let isTime : Bool := valueType = ValueType.time.name
  let isDatetime : Bool := valueType = ValueType.datetime.name
  let dates ←
    if (isDate || isDatetime) && !context.afterComma then do
      let ending := if isDatetime then [','] else closing
      let presets ← presets .date .dateFormat "Date format: " ending instant
      pure (presets ++ [customFormat "Custom date format string" "e.g., format(MMM DD)"])
    else pure []
  let times ←
    if isTime || (isDatetime && context.afterComma) then do
      let presets ← presets .time .timeFormat "Time format: " closing instant
      let custom :=
        if isTime then [customFormat "Custom time format string" "e.g., format(H:mm)"] else []
      pure (presets ++ custom)
    else pure []
  return filter context.query (dates ++ times)

/-- The tokens, those that suit a type first. -/
def tokensFor (valueType : Option Text) : List Token :=
  let suits (token : Token) : Bool :=
    (valueType = some ValueType.date.name && token.category.isDate)
      || (valueType = some ValueType.time.name && token.category.isTime)
  Token.all.filter suits ++ Token.all.filter fun token => !suits token

/-- A preview of the format so far, then the tokens that answer the query. -/
def forFormatToken (context : TypingContext) (instant : Instant) :
    Except Failure (List Suggestion) := do
  let query := Text.lower context.query
  let tokens :=
    (tokensFor context.valueType).filter fun token => query.isEmpty || token.answers query
  let preview ←
    match context.formatContent with
    | some (c :: rest) => do
      let value ← shown instant (c :: rest)
      pure [⟨"Preview: ".toList ++ value, "Current format: ".toList ++ c :: rest, [], .preview,
        none, none⟩]
    | _ => pure []
  let offered ← tokens.mapM fun token => do
    let sample ← (instant.example? token).mapError Failure.calendar
    return ⟨token.symbol, token.description, token.symbol, .formatToken, some sample,
      some token.category⟩
  return preview ++ offered

/-- The variables whose names start with the query. -/
def forVariable (query : Text) (instant : Instant) : Except Failure (List Suggestion) := do
  let values ← variableValues .default instant
  let offered := Variable.forTitles.filter fun known => (Text.lower query).isPrefixOf known.name
  return offered.map fun known =>
    ⟨known.name, known.description, known.name ++ "\x7d\x7d".toList, .variable,
      some ((values.lookup known).getD ['1']), none⟩

end Suggestion

variable [LocalZone]

/-- The completions for what is being typed. -/
def suggestionsFor (context : TypingContext) (instant : Instant) :
    Except Failure (List Suggestion) :=
  match context.kind with
  | .variable => Suggestion.forVariable context.query instant
  | .opening => .ok Suggestion.forOpening
  | .name => .ok (Suggestion.forName context.query)
  | .valueType => .ok (Suggestion.forValueType context.query)
  | .format => Suggestion.forFormat context instant
  | .formatToken => Suggestion.forFormatToken context instant

/-- The completions at the end of a text. -/
def suggestions (text : Text) (instant : Instant) : Except Failure (List Suggestion) :=
  match typingContext? text with
  | some context => suggestionsFor context instant
  | none => .ok []

end NoteTemplate
