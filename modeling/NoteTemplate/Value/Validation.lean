import NoteTemplate.Prompt.Substitution
import NoteTemplate.Title.Filename
import NoteTemplate.Value.Picker

/-!
# Checking values

A value has to suit the type of its prompt.  A blank value suits every prompt that
is optional and no other.  Values that are typed freely may not have characters that
a file name cannot have; values that are picked need no such check.
-/

namespace NoteTemplate

/-- Why a value does not suit a prompt. -/
inductive ValueProblem where
  | empty
  | notNumber
  | notDate
  | notTime
  | notDatetime
  | invalidCharacters
  | noOptions
  | notAnOption (options : List Text)
  | invalidEntry (entry : Text)
deriving DecidableEq, Repr

/-- The words that refuse a value. -/
def ValueProblem.message : ValueProblem → Text
  | .empty => "Value cannot be empty".toList
  | .notNumber => "Value must be a number".toList
  | .notDate => "Must be a valid date (YYYY-MM-DD)".toList
  | .notTime => "Must be a valid time (HH:MM)".toList
  | .notDatetime => "Must be a valid date and time".toList
  | .invalidCharacters => "Value contains invalid characters (* \" \\ / < > ? | :)".toList
  | .noOptions => "No options configured".toList
  | .notAnOption options => "Must be one of: ".toList ++ Text.join ", ".toList options
  | .invalidEntry entry => "Invalid option: \"".toList ++ entry ++ ['"']

/-- The rest of a text behind the digits and the point of a number. -/
def dropMantissa? (text : Text) : Option Text :=
  let behind := text.dropWhile isDigit
  match behind with
  | '.' :: rest =>
    let last := rest.dropWhile isDigit
    if (text.head?.any isDigit) || (rest.head?.any isDigit) then some last else none
  | _ => if text.head?.any isDigit then some behind else none

/-- The rest of a text behind a sign, if there is one. -/
def dropSign : Text → Text
  | [] => []
  | c :: rest => if c = '-' ∨ c = '+' then rest else c :: rest

/-- The rest of a text behind an exponent, if there is one. -/
def dropExponent : Text → Text
  | [] => []
  | c :: rest =>
    let digits := dropSign rest
    if (c = 'e' ∨ c = 'E') ∧ digits.head?.any isDigit then digits.dropWhile isDigit
    else c :: rest

/-- Is the text a decimal number, with an optional sign and exponent and blanks
around it? -/
def isNumber (text : Text) : Bool :=
  match dropMantissa? (dropSign (Text.trimLeft text)) with
  | some rest => Text.isBlankText (dropExponent rest)
  | none => false

/-- The entries of a value with several options: the parts between commas that are
not blank, without blanks around them. -/
def splitMultilist (value : Text) : List Text :=
  ((Text.splitOn ',' value).map Text.trim).filter fun entry => !entry.isEmpty

/-- The texts among the options; an option that is no text cannot be shown. -/
def optionTexts (options : List StoredText) : Except Failure (List Text) :=
  options.mapM fun option =>
    match option.asText? with
    | some text => .ok text
    | none => .error .wrongKind

/-- The problem with a blank value. -/
def blankProblem? (prompt : Prompt) : Option ValueProblem :=
  if prompt.isOptional then none else some .empty

/-- The problem with a value that is chosen from options, and that is not blank. -/
def choiceProblem? (prompt : Prompt) (value : Text) : Except Failure (Option ValueProblem) :=
  let options := prompt.optionList
  if options.isEmpty then .ok (some .noOptions)
  else if prompt.valueType = .list then
    if options.contains (.text value) then .ok none
    else do return some (.notAnOption (← optionTexts options))
  else
    let entries := splitMultilist value
    if entries.isEmpty then .ok (blankProblem? prompt)
    else
      .ok ((entries.find? fun entry => !options.contains (.text entry)).map
        ValueProblem.invalidEntry)

/-- The problem with the value of a prompt, if there is one. -/
def valueProblem? (prompt : Prompt) (value : Text) : Except Failure (Option ValueProblem) :=
  let checked (suits : Bool) (problem : ValueProblem) : Except Failure (Option ValueProblem) :=
    .ok (if suits then none else some problem)
  if Text.isBlankText value then .ok (blankProblem? prompt)
  else
    match prompt.valueType with
    | .text => checked (!hasInvalidValueChars value) .invalidCharacters
    | .numeric =>
      if isNumber value then checked (!hasInvalidValueChars value) .invalidCharacters
      else .ok (some .notNumber)
    | .date => checked (readDate? value).isSome .notDate
    | .time => checked (readTime? value).isSome .notTime
    | .datetime => checked (readDatetime? value).isSome .notDatetime
    | .list | .multilist => choiceProblem? prompt value

/-- The problems with the values of all prompts, under their identifiers; a missing
value is checked as an empty one. -/
def valueProblems (prompts : List Prompt) (values : PromptValues) :
    Except Failure (Keyed (Option ValueProblem)) :=
  prompts.foldlM (fun found prompt => do
    return Keyed.set prompt.id (← valueProblem? prompt ((values.get? prompt.id).getD [])) found) []

end NoteTemplate
