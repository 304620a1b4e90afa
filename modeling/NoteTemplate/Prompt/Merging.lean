import NoteTemplate.Prompt.Extraction

/-!
# Prompts with saved settings

A template keeps settings for its prompts.  When the title pattern changes, the
prompts are read from it anew: the pattern decides which prompts there are and
whether they are optional, and a type that it gives wins.  The saved prompt of the
same key gives the identifier, so that values stay attached, and otherwise the type
and the configuration.
-/

namespace NoteTemplate

/-- The prompt of a pattern together with the saved prompt of the same key. -/
def Prompt.mergeSaved (prompt saved : Prompt) : Prompt :=
  let id := if saved.id.isEmpty then prompt.id else saved.id
  if prompt.isInlineConfigured then { prompt with id := id }
  else
    { saved with
      name := prompt.name
      isOptional := prompt.isOptional
      id := id
      isInlineConfigured := false }

/-- A prompt of a pattern with the settings that were saved for it. -/
def Prompt.withSaved (saved : List Prompt) (prompt : Prompt) : Prompt :=
  match Prompt.find? saved prompt.key with
  | some kept => prompt.mergeSaved kept
  | none => prompt

/-- The prompts of a pattern, with the settings that were saved for them. -/
def syncPrompts (next : Nat) (pattern : Text) (saved : List Prompt) :
    Numbered (List Prompt) :=
  let (prompts, next) := extractPrompts next pattern
  (prompts.map (Prompt.withSaved saved), next)

/-- Merging keeps the name. -/
@[simp]
theorem Prompt.name_mergeSaved (prompt saved : Prompt) :
    (prompt.mergeSaved saved).name = prompt.name := by
  unfold mergeSaved; dsimp only; split <;> rfl

/-- Merging keeps whether the prompt is optional. -/
@[simp]
theorem Prompt.isOptional_mergeSaved (prompt saved : Prompt) :
    (prompt.mergeSaved saved).isOptional = prompt.isOptional := by
  unfold mergeSaved; dsimp only; split <;> rfl

end NoteTemplate
