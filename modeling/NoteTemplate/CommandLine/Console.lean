import NoteTemplate.CommandLine.Arguments
import NoteTemplate.Disk.Session

/-!
# The console

A command works on a session, hands messages to the console, and reads lines that the user types.
It ends by itself, or it stops: with an exit code, because it is used wrongly, because the
input ends while a question waits, or because of a failure.  What it did before it
stopped stays done.
-/

namespace NoteTemplate

/-- Why a command stops before its end. -/
inductive Stop where
  | exit (code : Nat)
  | endOfInput
  | misuse (problem : UsageProblem)
  | failure (cause : Failure)
deriving DecidableEq, Repr

/-- What a command works with. -/
structure Console where
  session : Session
  /-- The lines that are still to be read. -/
  input : List Text
  /-- The messages that the console has taken. -/
  output : List Message

/-- The work of a command. -/
abbrev CommandAction (α : Type) := ExceptT Stop (StateM Console) α

/-- The lines of what is typed; the last one need not be ended.  Only a line feed ends a
line. -/
def inputLines (text : Text) : List Text :=
  let lines := Text.splitOn '\n' text
  if lines.getLast? = some [] then lines.dropLast else lines

namespace CommandAction

/-- Work on the session. -/
def onSession {α : Type} (action : Action α) : CommandAction α := fun console =>
  let (result, session) := action.run console.session
  (result.mapError Stop.failure, { console with session := session })

/-- The result of a computation that may fail. -/
def ofExcept {α : Type} : Except Failure α → CommandAction α
  | .ok value => pure value
  | .error cause => throw (.failure cause)

/-- Refuse the command line. -/
def refuse {α : Type} (problem : UsageProblem) : CommandAction α := throw (.misuse problem)

/-- Refuse a value of a parameter. -/
def refuseValue {α : Type} (parameter : String) (reason : Text) : CommandAction α :=
  refuse (.badValue reason (some parameter.toList))

variable [Styling]

/-- Hand a message to the console. -/
def say (message : Message) : CommandAction Unit :=
  match message.refusal? with
  | some reason => throw (.failure (.unprintable reason))
  | none => modify fun console => { console with output := console.output ++ [message] }

/-- Say a line in markup. -/
def printLine (markup : Text) : CommandAction Unit := say (.line markup)

/-- Say a line about something that went wrong. -/
def printFailed (reason : Text) : CommandAction Unit :=
  printLine (styled "red" "FAILED:".toList ++ ' ' :: Styling.escape reason)

end CommandAction

/-- Is the failure one that a command explains to the user?  The others are values of a
kind that no command expects, numbers and moments that are out of range, nesting that is too
deep, and messages that the console refuses. -/
def Failure.isExplained : Failure → Bool
  | .wrongKind | .missingPart | .missingField _ | .infiniteNumber
  | .calendar (.dayTooLarge _) | .calendar .dateOverflow | .nestedTooDeep
  | .unprintable _ => false
  | _ => true

namespace CommandAction

/-- Explain a failure of a step, and end the command. -/
def orExplain [Styling] {α : Type} (action : CommandAction α) : CommandAction α :=
  tryCatch action fun
    | .failure cause =>
      if cause.isExplained then do
        printFailed cause.message
        throw (.exit 1)
      else throw (.failure cause)
    | stop => throw stop

end CommandAction

end NoteTemplate
