import NoteTemplate.Creation.Note

/-!
# Filling the prompts of a note

A note that was made by other means may still have prompts.  They are answered in
place; a note that does not change is not written.
-/

namespace NoteTemplate

namespace Vault

variable [LocalZone]

/-- The prompts of an existing note. -/
def promptsOfNote (vault : Vault) (path : Text) : Action (List Prompt) := do
  let content ← vault.read path
  Action.numbered fun next => extractNotePrompts next content

/-- Fill prompts of an existing note; the result is its new text. -/
def fillPrompts (vault : Vault) (path : Text) (prompts : List Prompt) (moment : Moment)
    (values : PromptValues) : Action Text := do
  let content ← vault.read path
  let shown ← Action.ofExcept (shownValues moment values prompts)
  let filled := fillNote prompts shown content
  if filled ≠ content then vault.modify path filled
  return filled

end Vault

end NoteTemplate
