import NoteTemplate.Json.Basic

/-!
# Writing JSON

A settings file is written with two spaces of indentation per level, one item or
field on a line, and characters outside ASCII as they are.  Empty lists and objects
stay on one line.
-/

namespace NoteTemplate

namespace JsonWriter

/-- A character as it is written inside a string. -/
def stringChar (c : Char) : Text :=
  if c = '"' ∨ c = '\\' then ['\\', c]
  else if c = '\n' then ['\\', 'n']
  else if c = '\r' then ['\\', 'r']
  else if c = '\t' then ['\\', 't']
  else if c = '\x08' then ['\\', 'b']
  else if c = '\x0c' then ['\\', 'f']
  else if c.toNat < 0x20 then '\\' :: 'u' :: paddedHex 4 c.toNat
  else [c]

/-- A string in double quotes. -/
def string (text : Text) : Text := '"' :: text.flatMap stringChar ++ ['"']

/-- A line break and the indentation of a level. -/
def newLine (level : Nat) : Text := '\n' :: List.replicate (2 * level) ' '

mutual

/-- A value that starts at a level of indentation. -/
def valueAt (level : Nat) : Json → Text
  | .null => "null".toList
  | .bool true => "true".toList
  | .bool false => "false".toList
  | .int value => signedDecimal value
  | .float value => value.textWith "Infinity".toList "NaN".toList
  | .str value => string value
  | .arr items =>
    if items.isEmpty then ['[', ']']
    else
      '[' :: newLine (level + 1) ++ Text.join (',' :: newLine (level + 1)) (itemsAt level items)
        ++ newLine level ++ [']']
  | .obj fields =>
    if fields.isEmpty then ['\x7b', '\x7d']
    else
      '\x7b' :: newLine (level + 1)
        ++ Text.join (',' :: newLine (level + 1)) (fieldsAt level fields)
        ++ newLine level ++ ['\x7d']

/-- The items of a list that starts at a level. -/
def itemsAt (level : Nat) : List Json → List Text
  | [] => []
  | item :: items => valueAt (level + 1) item :: itemsAt level items

/-- The fields of an object that starts at a level. -/
def fieldsAt (level : Nat) : List (Text × Json) → List Text
  | [] => []
  | (name, value) :: fields =>
    (string name ++ ": ".toList ++ valueAt (level + 1) value) :: fieldsAt level fields

end

end JsonWriter

/-- The text of a value, indented. -/
def Json.write (value : Json) : Text := JsonWriter.valueAt 0 value

end NoteTemplate
