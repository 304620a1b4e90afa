import NoteTemplate.Text.Quoted
import NoteTemplate.Text.Word

/-!
# Arguments of a command

An argument that starts with a hyphen and has more characters is an option.  The value
of an option is the next argument, whatever it looks like, or stands behind an equals
sign.  Two hyphens end the options.  Options may stand among other arguments, except in
front of the name of a command: there the first other argument ends them.
-/

namespace NoteTemplate

/-- Why arguments are not accepted. -/
inductive UsageProblem where
  | noCommand
  | unknownCommand (name : Text)
  | extraArgument (argument : Text)
  | unknownOption (name : Text)
  | lacksValue (option : Text)
  | takesNoValue (option : Text)
  | missingArgument (name : Text)
  /-- A value does not suit the parameter that it is given for. -/
  | badValue (reason : Text) (parameter : Option Text)
deriving DecidableEq, Repr

/-- The words for a problem. -/
def UsageProblem.message : UsageProblem → Text
  | .noCommand => "Missing command.".toList
  | .unknownCommand name => "No such command ".toList ++ quoted name ++ ['.']
  | .extraArgument argument => "Got unexpected extra argument (".toList ++ argument ++ [')']
  | .unknownOption name => "No such option: ".toList ++ name
  | .lacksValue option => "Option ".toList ++ quoted option ++ " requires an argument.".toList
  | .takesNoValue option => "Option ".toList ++ quoted option ++ " does not take a value.".toList
  | .missingArgument name => "Missing argument ".toList ++ quoted name ++ ['.']
  | .badValue reason parameter =>
    match parameter with
    | some parameter => "Invalid value for ".toList ++ parameter ++ ": ".toList ++ reason
    | none => reason

/-- An option that a command takes. -/
structure OptionForm where
  name : Text
  takesValue : Bool
deriving DecidableEq, Repr

/-- The option that asks for help; every command takes it. -/
def helpOption : OptionForm := ⟨"--help".toList, false⟩

/-- Arguments by their role: the options in order with their values, and the others. -/
structure GivenArguments where
  options : List (Text × Text)
  others : List Text
deriving DecidableEq, Repr

namespace GivenArguments

/-- Put an option in front. -/
def addOption (name value : Text) (given : GivenArguments) : GivenArguments :=
  { given with options := (name, value) :: given.options }

/-- Put another argument in front. -/
def addOther (argument : Text) (given : GivenArguments) : GivenArguments :=
  { given with others := argument :: given.others }

/-- Is the option given? -/
def has (given : GivenArguments) (name : Text) : Bool :=
  given.options.any fun option => option.1 = name

/-- All values of an option, in order. -/
def values (given : GivenArguments) (name : Text) : List Text :=
  (given.options.filter fun option => option.1 = name).map Prod.snd

/-- The value of an option; the last one counts. -/
def value? (given : GivenArguments) (name : Text) : Option Text := (given.values name).getLast?

end GivenArguments

/-- Is the argument an option? -/
def isOptionArgument : Text → Bool
  | '-' :: _ :: _ => true
  | _ => false

/-- The name of an option and the value behind its equals sign. -/
def cutOption (argument : Text) : Text × Option Text :=
  match Text.cutAt? '=' argument with
  | some (name, value) => (name, some value)
  | none => (argument, none)

/-- Sort arguments by their role.  With `mixed`, options may stand behind other
arguments. -/
def sortArguments (forms : List OptionForm) (mixed : Bool) :
    List Text → Except UsageProblem GivenArguments
  | [] => .ok ⟨[], []⟩
  | argument :: rest =>
    if argument = ['-', '-'] then .ok ⟨[], rest⟩
    else if isOptionArgument argument then
      let (name, value) := cutOption argument
      match forms.find? (fun form => form.name = name), value with
      | none, _ => .error (.unknownOption name)
      | some ⟨_, true⟩, some value => do
        return (← sortArguments forms mixed rest).addOption name value
      | some ⟨_, true⟩, none =>
        match rest with
        | [] => .error (.lacksValue name)
        | value :: rest => do return (← sortArguments forms mixed rest).addOption name value
      | some ⟨_, false⟩, some _ => .error (.takesNoValue name)
      | some ⟨_, false⟩, none => do
        return (← sortArguments forms mixed rest).addOption name []
    else if mixed then do return (← sortArguments forms mixed rest).addOther argument
    else .ok ⟨[], argument :: rest⟩

end NoteTemplate
