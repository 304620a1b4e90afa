import NoteTemplate.CommandLine.Commands

/-!
# The program

The options in front of the command say where the vault and its settings file are; the
vault is the working folder unless another one is given.  Then come the name of the
command and its arguments.  An option that only shows something comes before all others.
-/

namespace NoteTemplate

/-- The version of the program. -/
def programVersion : Text := "0.1.0".toList

namespace CommandAction

def vaultOption : OptionForm := ⟨"--vault".toList, true⟩
def settingsOption : OptionForm := ⟨"--settings".toList, true⟩
def versionOption : OptionForm := ⟨"--version".toList, false⟩

/-- The options in front of the command. -/
def programOptions : List OptionForm := [vaultOption, settingsOption, versionOption, helpOption]

/-- The result of reading the command line. -/
def ofUsage {α : Type} : Except UsageProblem α → CommandAction α
  | .ok value => pure value
  | .error problem => refuse problem

/-- Options that only show something: the first one ends the command. -/
def runEager [Styling] (given : GivenArguments) : CommandAction Unit :=
  match given.options.find? fun option =>
      option.1 = versionOption.name || option.1 = helpOption.name with
  | none => pure ()
  | some option => do
    if option.1 = versionOption.name then printLine programVersion
    throw (.exit 0)

/-- Check a path that is given for an option.  A vault is no file.  A path that names a
folder leads to no file, so nothing is found there that could be refused. -/
def checkPathOption (name value : Text) : CommandAction Unit := do
  let path := DiskPath.ofText value
  if value.contains '\x00' then throw (.failure .nullInPath)
  if name = vaultOption.name && !DiskPath.namesFolder value then
    let session := (← get).session
    if (session.tree.node? session.here path).any DiskNode.isFile then
      refuse (.badValue ("Directory ".toList ++ quoted value ++ " is a file.".toList) none)

/-- Check the paths that are given, in the order of their options. -/
def checkPathOptions (given : GivenArguments) : CommandAction Unit :=
  given.options.forM fun option =>
    checkPathOption option.1 ((given.value? option.1).getD [])

/-- Where the vault and its settings file are. -/
def locationOf (given : GivenArguments) : VaultLocation :=
  let root := DiskPath.ofText ((given.value? vaultOption.name).getD ['.'])
  let settingsFile :=
    match given.value? settingsOption.name with
    | some path => DiskPath.ofText path
    | none => root.append [settingsFileName]
  ⟨root, settingsFile⟩

/-- The options in front of the command, and what is left. -/
def readProgramOptions [Styling] (arguments : List Text) :
    CommandAction (VaultLocation × List Text) := do
  let given ← ofUsage (sortArguments programOptions false arguments)
  runEager given
  checkPathOptions given
  return (locationOf given, given.others)

variable [LocalZone] [Styling]

/-- Run the program. -/
def runProgram (clock : Instant) (arguments : List Text) : CommandAction Unit := do
  let (location, rest) ← readProgramOptions arguments
  match rest with
  | [] => refuse .noCommand
  | name :: arguments =>
    match Request.commands.find? fun command => command.name = name with
    | none => refuse (.unknownCommand name)
    | some command => do
      let request ← ofUsage (Request.ofArguments command arguments)
      runRequest location clock request

end CommandAction

/-- How the program ended, and what it left. -/
structure ProgramRun where
  stop : Stop
  console : Console

variable [LocalZone] [Styling]

/-- Run the program on a session, with a text as its input.  The end of the input while
a question waits ends the line of the question. -/
def runCommandLine (clock : Instant) (input : Text) (arguments : List Text)
    (session : Session) : ProgramRun :=
  let start : Console :=
    ⟨{ session with notices := [], nextPrompt := 1 }, inputLines input, []⟩
  match (CommandAction.runProgram clock arguments).run start with
  | (.ok (), console) => ⟨.exit 0, console⟩
  | (.error .endOfInput, console) =>
    let session := console.session
    ⟨.endOfInput, { console with session := { session with notices := session.notices ++ [[]] } }⟩
  | (.error stop, console) => ⟨stop, console⟩

end NoteTemplate
