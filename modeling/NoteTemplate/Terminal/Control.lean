import NoteTemplate.Text.Basic

/-!
# Control characters of a terminal

Five control characters would move the cursor of a terminal or ring its bell, so
text that is drawn with a layout is drawn without them.
-/

namespace NoteTemplate

/-- Bell, backspace, vertical tab, form feed and carriage return. -/
def isTerminalControl (c : Char) : Bool :=
  c = '\x07' || c = '\x08' || c = '\x0b' || c = '\x0c' || c = '\x0d'

/-- The text without these characters. -/
def stripControls (text : Text) : Text := text.filter fun c => !isTerminalControl c

end NoteTemplate
