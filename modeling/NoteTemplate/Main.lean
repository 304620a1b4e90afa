import NoteTemplate.CommandLine.Program
import NoteTemplate.Proofs.Terminal.Escaped
import NoteTemplate.Terminal.Drawing
import Std.Time.Zoned

/-!
# The command

The outer layer: the vault and what the arguments name are read from the disk, the program
runs on what was read, its output is shown, and what it changed is written back.  While a
question waits, the program is run again from the start with one more line of input; as it
depends on nothing but its input, what it said before stays the same.
-/

namespace NoteTemplate.Terminal

/-- The time of the local clock. -/
def readClock : IO Instant := do
  let now ← Std.Time.PlainDateTime.now
  let day := now.date
  let time := now.time
  let date := Date.ofNumbers? day.year.toInt.toNat day.month.val.toNat day.day.val.toNat
  let clock := ClockTime.ofNumbers? time.hour.val.toNat time.minute.val.toNat
    time.second.val.toNat (time.nanosecond.val.toNat / 1000)
  return ⟨date.getD ⟨1970, 1, 1, by decide⟩, clock.getD .midnight, none, false⟩

/-- The local zone, with the offsets of a day and more left out. -/
@[reducible] def zoneOf (rules : Std.Time.TimeZone.ZoneRules) : LocalZone :=
  let timezone (second : Int) := rules.timezoneAt (.ofSecondsSinceUnixEpoch (.ofInt second))
  { offsetAt second :=
      let offset := (timezone second).offset.second.toInt
      if offset.natAbs < 86400 then offset else 0
    nameAt second := (timezone second).abbreviation.toList
    natAbs_offsetAt_lt second := by grind }

/-- The emoji that are shown for their codes: none. -/
def emojis : List (Text × Text) := []

/-- How many lists and objects of a JSON text may stand inside each other. -/
def maxNesting : Nat := 980

/-- The path of a place. -/
def placePath (place : List Text) : String :=
  String.ofList ('/' :: Text.join ['/'] place)

/-- Put what stands at a place into the tree, and with `deep` also all that is below. -/
partial def readPlace (deep : Bool) (place : List Text) (tree : DiskTree) : IO DiskTree := do
  let path := (← IO.currentDir) / placePath place
  if !(← path.pathExists) then return tree
  else if ← path.isDir then
    let mut tree := tree.set place .folder
    if deep then
      for entry in ← path.readDir do
        tree ← readPlace true (place ++ [entry.fileName.toList]) tree
    return tree
  else return tree.set place (.file (.ofBytes (← IO.FS.readBinFile path).toList))

/-- Put a place and the folders above it into the tree. -/
def readWithAncestors (deep : Bool) (place : List Text) (tree : DiskTree) : IO DiskTree := do
  let above := (List.range place.length).drop 1
  let tree ← above.foldlM (fun tree count => readPlace false (place.take count) tree) tree
  readPlace deep place tree

/-- The vault and its settings file, as far as the arguments tell. -/
def locationOf (arguments : List Text) : VaultLocation :=
  match sortArguments CommandAction.programOptions false arguments with
  | .ok given => CommandAction.locationOf given
  | .error _ => CommandAction.locationOf ⟨[], []⟩

/-- All that the program may look at. -/
def readDisk (here : List Text) (arguments : List Text) : IO DiskTree := do
  let location := locationOf arguments
  let tree ← readWithAncestors false here ⟨[], .usual⟩
  let tree ← readWithAncestors true (location.root.resolve here) tree
  let places := (location.settingsFile :: arguments.map DiskPath.ofText).filter fun path =>
    !path.hasNull
  places.foldlM (fun tree path => readWithAncestors false (path.resolve here) tree) tree

/-- Write what has changed. -/
def writeChanges (before after : DiskTree) : IO Unit := do
  for (place, node) in after.nodes do
    if before.get? place ≠ some node then
      match node with
      | .folder => IO.FS.createDirAll (placePath place)
      | .file (.text content) => IO.FS.writeFile (placePath place) (String.ofList content)
      | .file (.binary _) => pure ()

/-- Run the program until it needs no more input, and show what it says. -/
partial def converse [LocalZone] [Styling] (clock : Instant) (arguments : List Text)
    (session : Session) (input : Text) (shown : Nat) : IO ProgramRun := do
  let run := runCommandLine clock input arguments session
  let output := run.console.output
  let stdout ← IO.getStdout
  stdout.putStr (String.ofList ((output.drop shown).flatMap (Message.draw emojis)))
  stdout.flush
  if run.stop = .endOfInput then
    let line ← (← IO.getStdin).getLine
    if line.isEmpty then return run
    else converse clock arguments session (input ++ line.toList) output.length
  else return run

/-- The code that the program exits with. -/
def exitCode : Stop → UInt32
  | .exit code => code.toUInt32
  | .misuse _ => 2
  | .endOfInput | .failure _ => 1

/-- What is said about the end of the program. -/
def stopMessage : Stop → Text
  | .exit _ => []
  | .endOfInput => "Aborted.\n".toList
  | .misuse problem => problem.message ++ ['\n']
  | .failure cause => cause.message ++ ['\n']

end NoteTemplate.Terminal

open NoteTemplate NoteTemplate.Terminal in
def main (arguments : List String) : IO UInt32 := do
  let clock ← readClock
  let _ := zoneOf (← Std.Time.Database.defaultGetLocalZoneRules)
  let _ := Markup.styling
  let arguments := arguments.map String.toList
  let here := DiskPath.partsOf (toString (← IO.currentDir)).toList
  let tree ← readDisk here arguments
  let run ← converse clock arguments ⟨tree, here, [], 1, maxNesting⟩ [] 0
  let after := run.console.session
  writeChanges tree after.tree
  let notices := after.notices.flatMap fun notice => Message.draw emojis (.line notice)
  IO.eprint (String.ofList (notices ++ stopMessage run.stop))
  return exitCode run.stop
