import NoteTemplate.Disk.Session
import NoteTemplate.Settings.Reading
import NoteTemplate.Settings.Writing

/-!
# The settings file

A vault without a settings file has the default settings.  A file that cannot be read
as settings is reported with its path.  The note app keeps its own configuration in the
vault; when that cannot be read, it is ignored with a notice.
-/

namespace NoteTemplate

/-- The name of the settings file in the root of a vault. -/
def settingsFileName : Text := ".titlestamp.json".toList

/-- The path of the app's configuration in the root of a vault. -/
def appConfigParts : List Text := [".obsidian".toList, "templates.json".toList]

/-- The failure that a fault in a JSON text is. -/
def JsonFault.failure (text : Text) : JsonFault → Failure
  | .tooManyDigits count => .tooManyDigits (some count)
  | .nestedTooDeep => .nestedTooDeep
  | fault => .malformedJson text fault

/-- Read a text as a JSON value. -/
def readJson (maxNesting : Nat) (text : Text) : Except Failure Json :=
  (Json.read maxNesting text).mapError (JsonFault.failure text)

/-- Settings in the text of a file. -/
def Settings.read (maxNesting : Nat) (text : Text) : Except Failure Settings := do
  let value ← readJson maxNesting text
  match value with
  | .obj _ => Settings.ofJson value
  | _ => throw .notObject

/-- Is the failure due to the content of a settings file, so that it is reported with
the path of the file? -/
def Failure.isBadContent : Failure → Bool
  | .malformedJson _ _ | .notUtf8 _ | .notObject | .missingField _ | .wrongKind
  | .unknownValueType _ | .notInteger _ | .tooManyDigits _ | .notNumber => true
  | _ => false

namespace Action

variable [Styling]

/-- The settings of a file; the default ones if there is no such file. -/
def loadSettings (path : DiskPath) : Action Settings := do
  match ← node? path with
  | none =>
    notice (styled "dim" ("No settings at ".toList ++ Styling.escape path.text
      ++ "; using defaults.".toList))
    return .default
  | some _ =>
    let maxNesting := (← get).maxNesting
    tryCatch (do ofExcept (Settings.read maxNesting (← readText path))) fun failure =>
      if failure.isBadContent then throw (.badSettings path.text failure) else throw failure

/-- Write settings to a file, and create its folder. -/
def saveSettings (settings : Settings) (path : DiskPath) : Action Unit := do
  makeFolders path.parent
  writeFile path settings.write

/-- The formats in the text of the app's configuration, or the fault that makes the
text unreadable. -/
def appFormats (path : DiskPath) (text : Text) : Action AppFormats := do
  match readJson (← get).maxNesting text >>= AppFormats.ofJson with
  | .ok formats => return formats
  | .error failure =>
    match failure with
    | .malformedJson _ _ | .missingPart =>
      notice (styled "dim" ("Ignoring unreadable ".toList ++ Styling.escape path.text ++ ": ".toList
        ++ Styling.escape failure.message))
      return .none
    | failure => throw failure

/-- The formats of dates and times in a vault. -/
def dateTimeSettings (root : DiskPath) (settings : Option Settings) :
    Action DateTimeSettings := do
  let path := root.append appConfigParts
  let formats ←
    if (← node? path).any DiskNode.isFile then appFormats path (← readText path)
    else pure .none
  return .choose settings formats

end Action

end NoteTemplate
