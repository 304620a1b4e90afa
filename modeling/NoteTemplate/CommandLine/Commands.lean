import NoteTemplate.CommandLine.Question
import NoteTemplate.CommandLine.Request
import NoteTemplate.Creation.Filling
import NoteTemplate.Editor.Suggestion
import NoteTemplate.Settings.File
import NoteTemplate.Title.Checking

/-!
# The commands

Every command that works on a vault first loads its settings.  A note that cannot be
filled does not keep the others from being filled; every other command ends at the first
thing that goes wrong.
-/

namespace NoteTemplate

/-- Where the vault and its settings are. -/
structure VaultLocation where
  root : DiskPath
  settingsFile : DiskPath
deriving DecidableEq, Repr

/-- A vault with its settings. -/
structure Workspace where
  vault : Vault
  settings : Settings
  formats : DateTimeSettings
deriving DecidableEq, Repr

namespace CommandAction

section

variable [Styling]

/-- Load a vault with its settings.  Only a settings file that cannot be used is
explained. -/
def load (location : VaultLocation) : CommandAction Workspace := do
  let root ← onSession (Action.node? location.root)
  if !root.any DiskNode.isFolder then
    printFailed ("vault not found: ".toList ++ location.root.text)
    throw (.exit 1)
  let settings ← tryCatch (onSession (Action.loadSettings location.settingsFile)) fun
    | .failure (.badSettings path cause) => do
      printFailed (Failure.badSettings path cause).message
      throw (.exit 1)
    | stop => throw stop
  let formats ← onSession (Action.dateTimeSettings location.root (some settings))
  return ⟨⟨location.root⟩, settings, formats⟩

end

/-- The template with an identifier or a name. -/
def templateFor (settings : Settings) (key : Text) : CommandAction Template :=
  match Template.find? settings.templates key with
  | some template => pure template
  | none => refuseValue "TEMPLATE" ("No template named ".toList ++ quoted key)

/-- The values that the command line assigns. -/
def assigned (assignments : List Text) : CommandAction (Keyed Text) :=
  match readAssignments assignments with
  | .ok named => pure named
  | .error problem => refuse problem

/-- The working folder as a folder of the vault, or the root if it is elsewhere. -/
def currentFolder (vault : Vault) : CommandAction Text := do
  let here := (← get).session.here
  tryCatch (onSession (vault.ofDisk ⟨['/'], here⟩)) fun
    | .failure (.outsideVault _ _) => pure vaultRoot
    | stop => throw stop

/-- Plan a note of a template. -/
def planFor [Styling] (workspace : Workspace) (template : Template) (folder : Option Text) :
    CommandAction CreationPlan := do
  let current ← currentFolder workspace.vault
  orExplain (onSession (workspace.vault.planNote workspace.formats template folder current))

/-! ## Listing templates -/

/-- The columns of the list of templates. -/
def templateColumns : List TableColumn :=
  [⟨"Name".toList, .left⟩, ⟨"Title pattern".toList, .left⟩, ⟨"Folder".toList, .left⟩,
   ⟨"File template".toList, .left⟩, ⟨"Prompts".toList, .right⟩]

/-- A cell that shows a text. -/
def cellOf [Styling] (text : Text) : TableCell := .marked (Styling.escape text)

/-- The path of the file that a template starts from, or a hyphen. -/
def shownFileTemplate : Option StoredText → Except Failure Text
  | none => .ok ['-']
  | some stored =>
    match stored.asText? with
    | some path => .ok path
    | none => .error .wrongKind

/-- The row of a template. -/
def templateRow [Styling] (template : Template) : CommandAction (List TableCell) := do
  let fileTemplate ← ofExcept (shownFileTemplate template.fileTemplate)
  let prompts ← onSession (Action.numbered fun next => extractPrompts next template.titlePattern)
  return [cellOf template.name, .painted template.titlePattern, cellOf template.folder,
    cellOf fileTemplate, .marked (decimal prompts.length)]

/-- List the templates. -/
def runList [Styling] (location : VaultLocation) : CommandAction Unit := do
  let workspace ← load location
  if workspace.settings.templates.isEmpty then
    printLine "No templates configured.".toList
  else
    let rows ← workspace.settings.templates.mapM templateRow
    say (.table templateColumns rows)

/-! ## Creating a note -/

variable [Styling]

/-- Stop at a pattern that is not usable, after all its problems are shown. -/
def requireUsable (pattern : Text) : CommandAction Unit := do
  let problems := titleProblems pattern
  if !problems.isEmpty then
    problems.forM fun problem => printFailed problem.message
    throw (.exit 1)

/-- The line about a note that would be created. -/
def dryRunLine (folder title : Text) : Text :=
  "DRY RUN: would create ".toList ++ Styling.escape folder ++ " -> ".toList
    ++ Styling.escape title ++ ".md".toList

variable [LocalZone]

/-- Create a note, or show which one would be created. -/
def runNew (location : VaultLocation) (clock : Instant) (request : NewRequest) :
    CommandAction Unit := do
  let workspace ← load location
  let template ← templateFor workspace.settings request.template
  requireUsable template.titlePattern
  let named ← assigned request.assignments
  let plan ← planFor workspace template request.folder
  let titleValues ← collectValues plan.titlePrompts named !request.noInput
  let noteValues ← collectValues plan.notePrompts named !request.noInput
  let moment := Moment.ofClock clock
  if request.dryRun then
    let filename ← ofExcept (plan.filename workspace.formats moment titleValues)
    printLine (dryRunLine plan.folder filename)
  else
    let created ← orExplain (onSession
      (workspace.vault.createPlanned plan workspace.formats moment titleValues noteValues))
    printLine ("Created: ".toList ++ Styling.escape created.path)
    if created.conflictResolved then
      printLine (styled "dim" "Name was taken; a numeric suffix was added.".toList)

/-! ## Filling notes -/

/-- What became of a note. -/
inductive FillOutcome where
  | filled | skipped | failed
deriving DecidableEq, Repr

/-- The path in the vault of a note that is given by a path on disk or in the vault. -/
def notePathFor (vault : Vault) (file : Text) : CommandAction Text := do
  let path := DiskPath.ofText file
  if (← onSession (Action.node? path)).isSome then
    tryCatch (onSession (vault.ofDisk path)) fun
      | .failure (.outsideVault _ _) =>
        refuseValue "FILES" (file ++ " is outside the vault".toList)
      | stop => throw stop
  else return normalizePath file

/-- The line about a note that could not be filled. -/
def failedLine (shown reason : Text) : Text :=
  styled "red" "FAILED:".toList ++ ' ' :: Styling.escape shown ++ " (".toList
    ++ Styling.escape reason ++ [')']

/-- Report that a note could not be filled, and go on. -/
def orReport (shown : Text) (action : CommandAction FillOutcome) : CommandAction FillOutcome :=
  tryCatch action fun stop =>
    let reason? : Option Text :=
      match stop with
      | .failure cause => if cause.isExplained then some cause.message else none
      | .misuse (.badValue reason _) => some reason
      | _ => none
    match reason? with
    | some reason => do
      printLine (failedLine shown reason)
      return .failed
    | none => throw stop

/-- Fill the prompts of one note. -/
def fillNoteAt (vault : Vault) (clock : Instant) (named : Keyed Text) (interactive : Bool)
    (path : Text) : CommandAction FillOutcome := do
  let prompts ← onSession (vault.promptsOfNote path)
  if prompts.isEmpty then
    printLine ("No prompts, skipping: ".toList ++ Styling.escape path)
    return .skipped
  else
    printLine (styled "bold" (Styling.escape path))
    let values ← collectValues prompts named interactive
    let _ ← onSession (vault.fillPrompts path prompts (Moment.ofClock clock) values)
    printLine ("Filled: ".toList ++ Styling.escape path)
    return .filled

/-- Fill the prompts of one note, wherever it is. -/
def fillFile (vault : Vault) (clock : Instant) (named : Keyed Text) (interactive : Bool)
    (file : Text) : CommandAction FillOutcome :=
  orReport file do
    let path ← notePathFor vault file
    orReport path (fillNoteAt vault clock named interactive path)

/-- Show how many notes were filled. -/
def printSummary (outcomes : List FillOutcome) : CommandAction Unit := do
  let counted (outcome : FillOutcome) : Text := decimal (outcomes.count outcome)
  printLine []
  printLine (styled "bold" "Summary".toList)
  printLine ("Filled:  ".toList ++ counted .filled)
  printLine ("Skipped: ".toList ++ counted .skipped)
  printLine ("Failed:  ".toList ++ counted .failed)

/-- Fill the prompts of notes. -/
def runFill (location : VaultLocation) (clock : Instant) (files assignments : List Text)
    (noInput : Bool) : CommandAction Unit := do
  let workspace ← load location
  let named ← assigned assignments
  let outcomes ← files.mapM (fillFile workspace.vault clock named !noInput)
  printSummary outcomes
  if outcomes.contains .failed then throw (.exit 1)

/-! ## Titles and numbers -/

/-- Show the title that a pattern makes now. -/
def runPreview (location : VaultLocation) (clock : Instant) (pattern : Text)
    (counter : Option Int) (assignments : List Text) : CommandAction Unit := do
  let workspace ← load location
  let prompts ← onSession (Action.numbered fun next => extractPrompts next pattern)
  let values := valuesFromNames prompts (← assigned assignments)
  let title ← ofExcept (renderTitle .preview ⟨workspace.formats, clock, counter, .filename⟩
    prompts values pattern)
  say (.unmarked title)

/-- Show the number of the next note of a template. -/
def runNextCounter (location : VaultLocation) (key : Text) (folder : Option Text) :
    CommandAction Unit := do
  let workspace ← load location
  let template ← templateFor workspace.settings key
  if !hasCounter template.titlePattern then
    refuseValue "TEMPLATE" ("Template ".toList ++ quoted template.name ++ " has no ".toList
      ++ counterTag)
  let plan ← planFor workspace template folder
  printLine (plan.counter.elim [] signedDecimal)

/-! ## Writing a pattern -/

/-- The line about a prompt of a pattern. -/
def promptLine (prompt : Prompt) : Text :=
  "Prompt: ".toList ++ Styling.escape prompt.name ++ ' ' :: styled "dim" ('(' ::
    prompt.valueType.name ++ (if prompt.isOptional then ", optional".toList else []) ++ [')'])

/-- Check a pattern and show how it is read. -/
def runCheck (pattern : Text) : CommandAction Unit := do
  say (.painted pattern)
  let names := variableNames pattern
  let prompts ← onSession (Action.numbered fun next => extractPrompts next pattern)
  if !names.isEmpty then
    printLine ("Variables: ".toList ++ Styling.escape (Text.join ", ".toList names))
  prompts.forM fun prompt => printLine (promptLine prompt)
  let problems := titleProblems pattern
  if problems.isEmpty then printLine (styled "green" "OK".toList)
  else
    problems.forM fun problem =>
      printLine (styled "red" "ERROR:".toList ++ ' ' :: Styling.escape problem.message)
    throw (.exit 1)

/-- The columns of the list of suggestions. -/
def suggestionColumns : List TableColumn :=
  [⟨"Label".toList, .left⟩, ⟨"Inserts".toList, .left⟩, ⟨"Example".toList, .left⟩,
   ⟨"Description".toList, .left⟩]

/-- The row of a suggestion. -/
def suggestionRow (suggestion : Suggestion) : List TableCell :=
  [suggestion.label, suggestion.insertText, suggestion.example?.getD [],
    suggestion.description].map cellOf

/-- Show what could be typed next. -/
def runComplete (clock : Instant) (text : Text) : CommandAction Unit := do
  let found ← ofExcept (suggestions text clock)
  if found.isEmpty then printLine (styled "dim" "No suggestions.".toList)
  else say (.table suggestionColumns (found.map suggestionRow))

/-- Run what the user asks for. -/
def runRequest (location : VaultLocation) (clock : Instant) : Request → CommandAction Unit
  | .help => pure ()
  | .list => runList location
  | .new request => runNew location clock request
  | .fill files assignments noInput => runFill location clock files assignments noInput
  | .preview pattern counter assignments => runPreview location clock pattern counter assignments
  | .nextCounter template folder => runNextCounter location template folder
  | .check pattern => runCheck pattern
  | .complete text => runComplete clock text

end CommandAction

end NoteTemplate
