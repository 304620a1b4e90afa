import NoteTemplate.Json.Basic

/-!
# Texts from a settings file

Where a text is expected, a settings file may have a value of another kind.  It is
kept and written back as it is; only when the text is needed does it show.  The two
cases exclude each other, so every JSON value is one stored text.
-/

namespace NoteTemplate

/-- The text of a JSON string. -/
def Json.asText? : Json → Option Text
  | .str value => some value
  | _ => none

/-- What stands at the place of a text. -/
inductive StoredText where
  | text (value : Text)
  | foreign (value : Json) (not_text : value.asText? = none)
deriving DecidableEq, Repr

namespace StoredText

def ofJson (value : Json) : StoredText :=
  match h : value.asText? with
  | some found => .text found
  | none => .foreign value h

def toJson : StoredText → Json
  | .text value => .str value
  | .foreign value _ => value

/-- Is there something other than an empty value? -/
def isFilled (stored : StoredText) : Bool := stored.toJson.isFilled

/-- The stored text in text form. -/
def plainText (stored : StoredText) : Text := stored.toJson.plainText

/-- The text itself, if it is one. -/
def asText? : StoredText → Option Text
  | .text value => some value
  | .foreign _ _ => none

@[simp]
theorem toJson_ofJson (value : Json) : (ofJson value).toJson = value := by
  unfold ofJson
  split
  · next found h => cases value <;> simp_all [Json.asText?, toJson]
  · rfl

@[simp]
theorem ofJson_toJson (stored : StoredText) : ofJson stored.toJson = stored := by
  cases stored with
  | text value => rfl
  | foreign value h =>
    unfold ofJson
    simp only [toJson]
    split
    · next found hfound => simp_all
    · rfl

end StoredText

end NoteTemplate
