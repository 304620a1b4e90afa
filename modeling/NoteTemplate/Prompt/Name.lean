import NoteTemplate.Text.Blank

/-!
# Names of prompts

A name has to survive being written into a tag and read back, so the characters that
delimit tags and types are refused, and so are question marks at the ends.
-/

namespace NoteTemplate

/-- Why a name is refused. -/
inductive NameProblem where
  | empty
  | tagCharacter
  | colon
  | questionMark
deriving DecidableEq, Repr

namespace NameProblem

/-- The words that refuse a name. -/
def message : NameProblem → Text
  | .empty => "Prompt name cannot be empty".toList
  | .tagCharacter => "Prompt name cannot contain %, \x7b or \x7d".toList
  | .colon => "Prompt name cannot contain a colon (used for type syntax)".toList
  | .questionMark =>
    "Prompt name cannot start or end with ? (used for optional markers)".toList

/-- The first problem with a name, if it has any. -/
def ofName? (name : Text) : Option NameProblem :=
  let trimmed := Text.trim name
  if trimmed.isEmpty then some .empty
  else if name.any fun c => c = '%' || c = '\x7b' || c = '\x7d' then some .tagCharacter
  else if name.contains ':' then some .colon
  else if trimmed.head? = some '?' || trimmed.getLast? = some '?' then some .questionMark
  else none

end NameProblem

end NoteTemplate
