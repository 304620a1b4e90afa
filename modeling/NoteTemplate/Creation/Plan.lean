import NoteTemplate.Prompt.Merging
import NoteTemplate.Template
import NoteTemplate.Vault.Counter

/-!
# Planning a note

Before the user is asked for anything, it is settled where the new note goes, what has
to be asked for its title and its text, and which number it gets.  The title pattern
says which prompts the title has; the settings of the template fill in what the pattern
leaves open.
-/

namespace NoteTemplate

/-- What is known about a new note before its prompts are answered. -/
structure CreationPlan where
  template : Template
  folder : Text
  counter : Option Int
  titlePrompts : List Prompt
  notePrompts : List Prompt
  /-- The text that the note starts from. -/
  content : Option Text
deriving DecidableEq, Repr

/-- All prompts of a plan. -/
def CreationPlan.prompts (plan : CreationPlan) : List Prompt :=
  plan.titlePrompts ++ plan.notePrompts

/-- The folder of a new note.  A folder that is given for this note comes first, then
the folder in use if the template asks for it, then the folder of the template. -/
def Template.targetFolder (template : Template) (given : Option Text) (current : Text) : Text :=
  match given with
  | some (c :: rest) => normalizePath (c :: rest)
  | some [] | none =>
    if template.folder = currentFolderWord then normalizePath current
    else normalizePath template.folder

namespace Vault

variable [Styling]

/-- The text of the template file at a path, which may lack the extension of notes. -/
def templateText? (vault : Vault) (path : Text) : Action (Option Text) := do
  let found ←
    match ← vault.templateContent? path with
    | some content => pure (some content)
    | none =>
      if hasNoteExtension path then pure none
      else vault.templateContent? (path ++ '.' :: noteExtension)
  if found.isNone then
    Action.notice (styled "dim" ("Template file not found: ".toList ++ Styling.escape path))
  return found

/-- The text that the notes of a template start from. -/
def startingText? (vault : Vault) : Option StoredText → Action (Option Text)
  | none => return none
  | some stored =>
    if !stored.isFilled then return none
    else
      match stored.asText? with
      | some path => vault.templateText? path
      | none => throw .missingPart

/-- Plan a note. -/
def planNote (vault : Vault) (settings : DateTimeSettings) (template : Template)
    (given : Option Text) (current : Text) : Action CreationPlan := do
  let folder := template.targetFolder given current
  let titlePrompts ← Action.numbered fun next =>
    syncPrompts next template.titlePattern template.prompts
  let content ← vault.startingText? template.fileTemplate
  let notePrompts ← Action.numbered fun next => extractNotePrompts next (content.getD [])
  let counter ←
    if hasCounter template.titlePattern then
      some <$> vault.nextCounter settings template.counterStart template.titlePattern folder
    else pure none
  return ⟨template, folder, counter, titlePrompts, notePrompts, content⟩

end Vault

end NoteTemplate
