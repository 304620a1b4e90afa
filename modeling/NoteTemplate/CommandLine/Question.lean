import NoteTemplate.CommandLine.Console
import NoteTemplate.Value.Validation

/-!
# Asking for values

A value can be given on the command line as `Name=Value`.  Prompts that get none there
are asked for, again and again until the answer suits, or left blank when no questions
may be asked.  All values that do not suit are reported together.
-/

namespace NoteTemplate

open CommandAction

/-- The values that are assigned to names; the first equals sign ends the name. -/
def readAssignments (assignments : List Text) : Except UsageProblem (Keyed Text) :=
  assignments.foldlM (fun (named : Keyed Text) assignment =>
    let refused := .error (.badValue
      ("Expected Name=Value, got ".toList ++ quoted assignment) (some "--set".toList))
    match Text.cutAt? '=' assignment with
    | some (name, value) =>
      if Text.isBlankText name then refused else .ok (named.set (Text.trim name) value)
    | none => refused) []

/-- What to type for a value of a type that has no options. -/
def ValueType.inputHint? : ValueType → Option Text
  | .numeric => some "number".toList
  | .date => some "YYYY-MM-DD".toList
  | .time => some "HH:mm".toList
  | .datetime => some "YYYY-MM-DDTHH:mm".toList
  | .text | .list | .multilist => none

/-- What to type for a prompt; empty if there is nothing to tell. -/
def Prompt.inputHint (prompt : Prompt) : Except Failure Text := do
  match prompt.valueType.hasOptions, prompt.options with
  | true, some options =>
    let shown := Text.join " | ".toList (← optionTexts options)
    return if prompt.valueType = .multilist then shown ++ ", comma separated".toList else shown
  | _, _ => return prompt.valueType.inputHint?.getD []

/-- The question for the value of a prompt, with markup. -/
def Prompt.inputLabel [Styling] (prompt : Prompt) : Except Failure Text := do
  let hint ← prompt.inputHint
  return Styling.escape prompt.name
    ++ (if hint.isEmpty then [] else ' ' :: styled "dim" ('(' :: Styling.escape hint ++ [')']))
    ++ (if prompt.isOptional then ' ' :: styled "dim" "optional".toList else [])

namespace CommandAction

section

variable [Styling]

/-- Ask until an answer among the lines suits. -/
def askFor (prompt : Prompt) (label : Text) : List Text → CommandAction Text
  | [] => do
    say (.question (label ++ ": ".toList))
    throw .endOfInput
  | line :: lines => do
    say (.question (label ++ ": ".toList))
    modify fun console => { console with input := lines }
    let value := Text.trim line
    match ← ofExcept (valueProblem? prompt value) with
    | none => return value
    | some problem =>
      printLine (styled "red" (Styling.escape problem.message))
      askFor prompt label lines

/-- Ask for the value of a prompt. -/
def ask (prompt : Prompt) : CommandAction Text := do
  let label ← ofExcept prompt.inputLabel
  askFor prompt label (← get).input

end

/-- What is known while values are collected: the values, and what does not suit. -/
structure Collected where
  values : PromptValues
  problems : List Text

/-- The problem with a value, under the name of its prompt. -/
def namedProblem? (prompt : Prompt) (value : Text) : Except Failure (Option Text) := do
  return (← valueProblem? prompt value).map fun problem =>
    prompt.name ++ ": ".toList ++ problem.message

variable [Styling]

/-- Get the value of one prompt. -/
def collectOne (interactive : Bool) (collected : Collected) (prompt : Prompt) :
    CommandAction Collected := do
  let given := collected.values.get? prompt.id
  if given.isNone && interactive then
    return { collected with values := collected.values.set prompt.id (← ask prompt) }
  else
    match ← ofExcept (namedProblem? prompt (given.getD [])) with
    | none => return collected
    | some problem => return { collected with problems := collected.problems ++ [problem] }

/-- Get the values of all prompts. -/
def collectValues (prompts : List Prompt) (named : Keyed Text) (interactive : Bool) :
    CommandAction PromptValues := do
  let collected ←
    prompts.foldlM (collectOne interactive) ⟨valuesFromNames prompts named, []⟩
  if collected.problems.isEmpty then return collected.values
  else refuseValue "--set" (Text.join "; ".toList collected.problems)

end CommandAction

end NoteTemplate
