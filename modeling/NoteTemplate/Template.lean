import NoteTemplate.Prompt.Basic

/-!
# Templates

A template describes the notes that are made from it: the pattern of their titles,
the folder they go to, the file that their text starts from, the first number of
their counter, and the settings of the prompts in the title.
-/

namespace NoteTemplate

/-- The description of a kind of note. -/
structure Template where
  id : Text
  name : Text
  titlePattern : Text
  /-- The folder of new notes, or the word for the folder in use. -/
  folder : Text
  /-- The path of the file that the text starts from. -/
  fileTemplate : Option StoredText
  /-- The number of the first note. -/
  counterStart : Int
  /-- The settings that are kept for the prompts of the title. -/
  prompts : List Prompt
deriving DecidableEq, Repr

/-- The word for the folder in use. -/
def currentFolderWord : Text := "current".toList

namespace Template

/-- The template with the given identifier, or else the first one with the given
name, in any case. -/
def find? (templates : List Template) (key : Text) : Option Template :=
  match templates.find? fun template => template.id = key with
  | some template => some template
  | none => templates.find? fun template => Text.lower template.name = Text.lower key

end Template

end NoteTemplate
