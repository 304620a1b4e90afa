import NoteTemplate.Prompt.Extraction
import NoteTemplate.Text.Keyed
import NoteTemplate.Text.Replacement

/-!
# Filling prompts

Values are kept under the identifiers of prompts, and a tag finds its prompt by
name.  A tag without a name, or with the name of no prompt, stays as it is.  In a
preview a prompt without a value shows its name in brackets; otherwise it shows
nothing.
-/

namespace NoteTemplate

/-- The values of prompts, under their identifiers. -/
abbrev PromptValues := Keyed Text

/-- How a prompt without a value is shown. -/
inductive FillMode where
  | final
  | preview
deriving DecidableEq, Repr

/-- The prompt that a tag asks for. -/
def TagOccurrence.promptIn? (prompts : List Prompt) (found : TagOccurrence) : Option Prompt :=
  let name := promptName found.value.content
  if name.isEmpty then none else Prompt.find? prompts (Text.lower name)

/-- What is shown in the place of a prompt. -/
def Prompt.fill (mode : FillMode) (values : PromptValues) (prompt : Prompt) : Text :=
  match mode, (values.get? prompt.id).getD [] with
  | .preview, [] => '[' :: prompt.name ++ [']']
  | _, value => value

/-- The text with the given tags filled. -/
def fillTags (mode : FillMode) (tags : List TagOccurrence) (prompts : List Prompt)
    (values : PromptValues) (text : Text) : Text :=
  let replacements := tags.filterMap fun found =>
    (found.promptIn? prompts).map fun prompt => (found.span, prompt.fill mode values)
  Text.replaceSpans replacements text

/-- A title with its prompts filled. -/
def fillTitle (mode : FillMode) (prompts : List Prompt) (values : PromptValues) (text : Text) :
    Text :=
  fillTags mode (promptTags text) prompts values text

/-- A note with its prompts filled; fenced code blocks stay as they are. -/
def fillNote (prompts : List Prompt) (values : PromptValues) (text : Text) : Text :=
  fillTags .final (promptTagsOutsideCode text) prompts values text

/-- Values that are given under the names of prompts, put under their identifiers.
A name counts without blanks at its ends and in any case; a name of no prompt is
dropped, and of two values for one prompt the last one counts. -/
def valuesFromNames (prompts : List Prompt) (named : Keyed Text) : PromptValues :=
  named.foldl (fun values entry =>
    match Prompt.find? prompts (Text.lower (Text.trim entry.1)) with
    | some prompt => values.set prompt.id entry.2
    | none => values) []

end NoteTemplate
