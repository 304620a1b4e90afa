import NoteTemplate.Template
import NoteTemplate.Variable.Rendering

/-!
# Settings

The settings of a vault are its templates, the folder of template files, and the
formats of dates and times.  A format that is not set here may be set by the note
app that the vault belongs to.
-/

namespace NoteTemplate

/-- The settings of a vault. -/
structure Settings where
  templates : List Template
  templateFolder : Text
  dateFormat : Option StoredText
  timeFormat : Option StoredText
deriving DecidableEq, Repr

namespace Settings

/-- The folder of template files when none is set. -/
def defaultTemplateFolder : Text := "Templates".toList

/-- The settings when there is no settings file. -/
def default : Settings := ⟨[], defaultTemplateFolder, none, none⟩

end Settings

/-- The formats that the note app has configured, where it has. -/
structure AppFormats where
  dateFormat : Option StoredText
  timeFormat : Option StoredText
deriving DecidableEq, Repr

/-- No formats at all. -/
def AppFormats.none : AppFormats := ⟨.none, .none⟩

/-- The formats in use: those of the settings come first, then those of the app. -/
def DateTimeSettings.choose (settings : Option Settings) (app : AppFormats) :
    DateTimeSettings :=
  let date := (settings.bind Settings.dateFormat).or app.dateFormat
  let time := (settings.bind Settings.timeFormat).or app.timeFormat
  ⟨date.getD DateTimeSettings.default.dateFormat, time.getD DateTimeSettings.default.timeFormat⟩

end NoteTemplate
