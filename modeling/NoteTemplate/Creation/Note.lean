import NoteTemplate.Creation.Plan
import NoteTemplate.Value.Output

/-!
# Creating a note

The answers to the prompts are put into the formats of the prompts.  Then the title is
made from its pattern, and the text from the file of the template: first its prompts are
filled, then its variables, among them the title.
-/

namespace NoteTemplate

/-- The moment of the clock, and the moment that a note is made for. -/
structure Moment where
  clock : Instant
  now : Instant

/-- The same moment for both. -/
def Moment.ofClock (clock : Instant) : Moment := ⟨clock, clock⟩

variable [LocalZone]

/-- The values that prompts have, each in the format of its prompt. -/
def shownValues (moment : Moment) (values : PromptValues) (prompts : List Prompt) :
    Except Failure PromptValues :=
  prompts.foldlM (fun (shown : PromptValues) prompt =>
    match values.get? prompt.id with
    | some value => do
      return shown.set prompt.id (← prompt.showValue moment.clock.date moment.now value)
    | none => .ok shown) []

namespace CreationPlan

/-- The title of the note. -/
def title (plan : CreationPlan) (mode : FillMode) (settings : DateTimeSettings)
    (moment : Moment) (values : PromptValues) : Except Failure Text := do
  let shown ← shownValues moment values plan.titlePrompts
  renderTitle mode ⟨settings, moment.now, plan.counter, .filename⟩ plan.titlePrompts shown
    plan.template.titlePattern

/-- The name of the file for the title. -/
def filename (plan : CreationPlan) (settings : DateTimeSettings) (moment : Moment)
    (values : PromptValues) : Except Failure Text := do
  return cleanFilename (← plan.title .final settings moment values)

/-- The text of the note.  While its title is not known, variables for it stay. -/
def noteText (plan : CreationPlan) (title : Option Text) (settings : DateTimeSettings)
    (moment : Moment) (values : PromptValues) : Except Failure Text := do
  match plan.content with
  | none | some [] => return []
  | some content =>
    let shown ← shownValues moment values plan.notePrompts
    fillVariables ⟨settings, moment.now, plan.counter, .note title⟩
      (fillNote plan.notePrompts shown content)

end CreationPlan

/-- Create the note of a plan. -/
def Vault.createPlanned (vault : Vault) (plan : CreationPlan) (settings : DateTimeSettings)
    (moment : Moment) (titleValues noteValues : PromptValues) : Action CreatedNote := do
  let title ← Action.ofExcept (plan.filename settings moment titleValues)
  let content ← Action.ofExcept (plan.noteText (some title) settings moment noteValues)
  vault.createNote plan.folder title content

end NoteTemplate
