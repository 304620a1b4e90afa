import NoteTemplate.Terminal.Markup
import NoteTemplate.Terminal.Table

/-!
# Drawing messages

A plain terminal that is wide enough draws every message without breaking its lines.  Tabs are
drawn as spaces.
-/

namespace NoteTemplate

variable (emojis : List (Text × Text))

/-- What a cell shows. -/
def TableCell.draw : TableCell → Text
  | .marked markup => Markup.render emojis markup
  | .painted pattern => stripControls pattern

/-- What a message shows. -/
def Message.draw : Message → Text
  | .line markup => Text.expandTabs (Markup.render emojis markup) ++ ['\n']
  | .question markup => Text.expandTabs (Markup.render emojis markup)
  | .unmarked text => Text.expandTabs (stripControls (Markup.replaceEmojis emojis text)) ++ ['\n']
  | .painted pattern => Text.expandTabs (stripControls pattern) ++ ['\n']
  | .table columns rows =>
    Table.render ⟨columns, rows.map fun row => row.map (TableCell.draw emojis)⟩

end NoteTemplate
