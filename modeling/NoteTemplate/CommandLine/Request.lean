import NoteTemplate.CommandLine.Arguments
import NoteTemplate.Number.Numeral

/-!
# Requests

A command line asks for one of seven commands.  Each takes options of its own, and one
argument, several, or none.  Values are checked in the order in which their options are
given, then missing arguments are noticed, then arguments that are too many.
-/

namespace NoteTemplate

/-- How a new note is asked for. -/
structure NewRequest where
  template : Text
  folder : Option Text
  assignments : List Text
  noInput : Bool
  dryRun : Bool
deriving DecidableEq, Repr

/-- What the user asks for. -/
inductive Request where
  /-- Show a command's help. -/
  | help
  /-- List the templates. -/
  | list
  /-- Create a note. -/
  | new (request : NewRequest)
  /-- Fill the prompts of notes. -/
  | fill (files assignments : List Text) (noInput : Bool)
  /-- Show the title that a pattern makes. -/
  | preview (pattern : Text) (counter : Option Int) (assignments : List Text)
  /-- Show the number of the next note. -/
  | nextCounter (template : Text) (folder : Option Text)
  /-- Check a pattern. -/
  | check (pattern : Text)
  /-- Complete a pattern. -/
  | complete (text : Text)
deriving DecidableEq, Repr

namespace Request

def folderOption : OptionForm := ⟨"--folder".toList, true⟩
def assignmentOption : OptionForm := ⟨"--set".toList, true⟩
def counterOption : OptionForm := ⟨"--counter".toList, true⟩
def noInputOption : OptionForm := ⟨"--no-input".toList, false⟩
def dryRunOption : OptionForm := ⟨"--dry-run".toList, false⟩

/-- No argument is taken. -/
def noArgument (given : GivenArguments) : Except UsageProblem Unit :=
  match given.others with
  | [] => .ok ()
  | argument :: _ => .error (.extraArgument argument)

/-- The one argument that is taken. -/
def oneArgument (name : String) (given : GivenArguments) : Except UsageProblem Text :=
  match given.others with
  | [] => .error (.missingArgument name.toList)
  | [argument] => .ok argument
  | _ :: argument :: _ => .error (.extraArgument argument)

/-- The arguments that are taken, of which there has to be one. -/
def someArguments (name : String) (given : GivenArguments) : Except UsageProblem (List Text) :=
  match given.others with
  | [] => .error (.missingArgument name.toList)
  | arguments => .ok arguments

/-- The integer that is given for an option. -/
def integerValue? (given : GivenArguments) (name : Text) : Except UsageProblem (Option Int) :=
  match given.value? name with
  | none => .ok none
  | some text =>
    match readInteger text with
    | .ok value => .ok (some value)
    | .error _ => .error (.badValue (quoted text ++ " is not a valid integer.".toList) none)

/-- A command: the options that it takes, and the request that its arguments make. -/
structure Command where
  name : Text
  options : List OptionForm
  request : GivenArguments → Except UsageProblem Request

/-- All commands. -/
def commands : List Command :=
  [⟨"list".toList, [], fun given => do
      noArgument given
      return .list⟩,
   ⟨"new".toList, [folderOption, assignmentOption, noInputOption, dryRunOption], fun given => do
      return .new ⟨← oneArgument "TEMPLATE" given, given.value? folderOption.name,
        given.values assignmentOption.name, given.has noInputOption.name,
        given.has dryRunOption.name⟩⟩,
   ⟨"fill".toList, [assignmentOption, noInputOption], fun given => do
      return .fill (← someArguments "FILES" given) (given.values assignmentOption.name)
        (given.has noInputOption.name)⟩,
   ⟨"preview".toList, [counterOption, assignmentOption], fun given => do
      let counter ← integerValue? given counterOption.name
      return .preview (← oneArgument "PATTERN" given) counter (given.values assignmentOption.name)⟩,
   ⟨"next-counter".toList, [folderOption], fun given => do
      return .nextCounter (← oneArgument "TEMPLATE" given) (given.value? folderOption.name)⟩,
   ⟨"check".toList, [], fun given => do return .check (← oneArgument "PATTERN" given)⟩,
   ⟨"complete".toList, [], fun given => do return .complete (← oneArgument "TEXT" given)⟩]

/-- The request that the arguments of a command make. -/
def ofArguments (command : Command) (arguments : List Text) : Except UsageProblem Request := do
  let given ← sortArguments (helpOption :: command.options) true arguments
  if given.has helpOption.name then return .help else command.request given

end Request

end NoteTemplate
