import NoteTemplate.Prompt.Reading
import NoteTemplate.Prompt.Tag

/-!
# The prompts of a text

A text asks each question once: the first tag with a name makes the prompt, and
later tags with that name, in any case, only repeat it.  Tags without a name ask
nothing.  Prompts get their identifiers from a counter that is passed along.
-/

namespace NoteTemplate

/-- The prompt that a tag describes. -/
def TagOccurrence.prompt (found : TagOccurrence) : Prompt :=
  Prompt.ofContent found.value.content found.value.isOptional

/-- The prompts of a row of tags; prompts with one of the keys `seen` were met
before. -/
def promptsOfTagsFrom (seen : List Text) : List TagOccurrence → List Prompt
  | [] => []
  | found :: rest =>
    let prompt := found.prompt
    if prompt.name.isEmpty || seen.contains prompt.key then promptsOfTagsFrom seen rest
    else prompt :: promptsOfTagsFrom (prompt.key :: seen) rest

/-- The prompts of a row of tags, without identifiers. -/
def promptsOfTags (tags : List TagOccurrence) : List Prompt := promptsOfTagsFrom [] tags

/-- The identifier with the given number. -/
def promptId (number : Nat) : Text := "prompt-".toList ++ paddedHex 12 number

/-- The prompts with identifiers numbered from `next` on. -/
def numberPrompts (next : Nat) : List Prompt → List Prompt
  | [] => []
  | prompt :: prompts => { prompt with id := promptId next } :: numberPrompts (next + 1) prompts

/-- Prompts, and the number of the next identifier. -/
abbrev Numbered (α : Type) := α × Nat

/-- The prompts of a text that is a title, numbered from `next` on. -/
def extractPrompts (next : Nat) (text : Text) : Numbered (List Prompt) :=
  let prompts := promptsOfTags (promptTags text)
  (numberPrompts next prompts, next + prompts.length)

/-- The prompts of a text that is a note, numbered from `next` on.  Fenced code
blocks have no prompts. -/
def extractNotePrompts (next : Nat) (text : Text) : Numbered (List Prompt) :=
  let prompts := promptsOfTags (promptTagsOutsideCode text)
  (numberPrompts next prompts, next + prompts.length)

/-- How many questions a title asks.  The identifiers that the prompts get do not count. -/
def countPrompts (text : Text) : Nat := (extractPrompts 0 text).1.length

/-- Does a row of tags have a tag with a name? -/
def hasNamedTag (tags : List TagOccurrence) : Bool :=
  tags.any fun found => !(promptName found.value.content).isEmpty

/-- Does a title have a prompt? -/
def hasPrompts (text : Text) : Bool := hasNamedTag (promptTags text)

/-- Does a note have a prompt outside its code blocks? -/
def hasNotePrompts (text : Text) : Bool := hasNamedTag (promptTagsOutsideCode text)

@[simp]
theorem length_numberPrompts (next : Nat) (prompts : List Prompt) :
    (numberPrompts next prompts).length = prompts.length := by
  induction prompts generalizing next with
  | nil => rfl
  | cons prompt prompts ih => simp [numberPrompts, ih]

/-- Numbering does not change what is asked. -/
theorem map_key_numberPrompts (next : Nat) (prompts : List Prompt) :
    (numberPrompts next prompts).map Prompt.key = prompts.map Prompt.key := by
  induction prompts generalizing next with
  | nil => rfl
  | cons prompt prompts ih => simp [numberPrompts, ih, Prompt.key]

/-- Two prompts of one row of tags have different keys. -/
theorem nodup_key_promptsOfTagsFrom (seen : List Text) (tags : List TagOccurrence) :
    ((promptsOfTagsFrom seen tags).map Prompt.key).Nodup ∧
      ∀ prompt ∈ promptsOfTagsFrom seen tags, prompt.key ∉ seen := by
  induction tags generalizing seen with
  | nil => simp [promptsOfTagsFrom]
  | cons found rest ih =>
    simp only [promptsOfTagsFrom]
    split
    · exact ih seen
    · next h =>
      obtain ⟨hnodup, hnew⟩ := ih (found.prompt.key :: seen)
      simp only [Bool.or_eq_true, List.contains_eq_mem, decide_eq_true_eq, not_or] at h
      refine ⟨List.nodup_cons.2 ⟨?_, hnodup⟩, ?_⟩
      · intro hmem
        obtain ⟨prompt, hprompt, hkey⟩ := List.mem_map.1 hmem
        exact hnew prompt hprompt (hkey ▸ List.mem_cons_self)
      · intro prompt hprompt
        rcases List.mem_cons.1 hprompt with rfl | hprompt
        · exact h.2
        · exact fun hmem => hnew prompt hprompt (List.mem_cons_of_mem _ hmem)

theorem nodup_key_promptsOfTags (tags : List TagOccurrence) :
    ((promptsOfTags tags).map Prompt.key).Nodup :=
  (nodup_key_promptsOfTagsFrom [] tags).1

end NoteTemplate
