import NoteTemplate.Number.Binary64
import NoteTemplate.Text.Keyed
import NoteTemplate.Text.Quoted

/-!
# JSON values

A settings file is JSON, and what stands at a place where a text is expected need
not be one.  So values of every kind have a plain text, which is the text itself
for a string and a readable form for the rest, and every value counts as filled or
as empty: empty are null, false, zero, and a string, list or object without
content.
-/

namespace NoteTemplate

/-- A JSON value.  The fields of an object keep their order, and no two have the
same name. -/
inductive Json where
  | null
  | bool (value : Bool)
  | int (value : Int)
  | float (value : Binary64)
  | str (value : Text)
  | arr (items : List Json)
  | obj (fields : List (Text × Json))
deriving Repr

namespace Json

mutual

/-- Equality of values is decided by comparing them part by part. -/
def decEq : (left right : Json) → Decidable (left = right)
  | .null, .null => isTrue rfl
  | .bool a, .bool b => decidable_of_iff (a = b) (by simp)
  | .int a, .int b => decidable_of_iff (a = b) (by simp)
  | .float a, .float b => decidable_of_iff (a = b) (by simp)
  | .str a, .str b => decidable_of_iff (a = b) (by simp)
  | .arr a, .arr b =>
    match decEqItems a b with
    | isTrue h => isTrue (by rw [h])
    | isFalse h => isFalse (by simpa using h)
  | .obj a, .obj b =>
    match decEqFields a b with
    | isTrue h => isTrue (by rw [h])
    | isFalse h => isFalse (by simpa using h)
  | .null, .bool _ | .null, .int _ | .null, .float _ | .null, .str _ | .null, .arr _
  | .null, .obj _ | .bool _, .null | .bool _, .int _ | .bool _, .float _ | .bool _, .str _
  | .bool _, .arr _ | .bool _, .obj _ | .int _, .null | .int _, .bool _ | .int _, .float _
  | .int _, .str _ | .int _, .arr _ | .int _, .obj _ | .float _, .null | .float _, .bool _
  | .float _, .int _ | .float _, .str _ | .float _, .arr _ | .float _, .obj _ | .str _, .null
  | .str _, .bool _ | .str _, .int _ | .str _, .float _ | .str _, .arr _ | .str _, .obj _
  | .arr _, .null | .arr _, .bool _ | .arr _, .int _ | .arr _, .float _ | .arr _, .str _
  | .arr _, .obj _ | .obj _, .null | .obj _, .bool _ | .obj _, .int _ | .obj _, .float _
  | .obj _, .str _ | .obj _, .arr _ => isFalse (by simp)

/-- Equality of lists of values. -/
def decEqItems : (left right : List Json) → Decidable (left = right)
  | [], [] => isTrue rfl
  | [], _ :: _ | _ :: _, [] => isFalse (by simp)
  | a :: as, b :: bs =>
    match decEq a b, decEqItems as bs with
    | isTrue h, isTrue hs => isTrue (by rw [h, hs])
    | isFalse h, _ => isFalse (by simp [h])
    | _, isFalse hs => isFalse (by simp [hs])

/-- Equality of lists of fields. -/
def decEqFields : (left right : List (Text × Json)) → Decidable (left = right)
  | [], [] => isTrue rfl
  | [], _ :: _ | _ :: _, [] => isFalse (by simp)
  | (m, a) :: as, (n, b) :: bs =>
    match decEq a b, decEqFields as bs with
    | isTrue h, isTrue hs =>
      if hname : m = n then isTrue (by rw [h, hs, hname]) else isFalse (by simp [hname])
    | isFalse h, _ => isFalse (by simp [h])
    | _, isFalse hs => isFalse (by simp [hs])

end

instance : DecidableEq Json := decEq

/-- Does the value count as filled? -/
def isFilled : Json → Bool
  | .null => false
  | .bool value => value
  | .int value => value != 0
  | .float value => value.isNonzero
  | .str value => !value.isEmpty
  | .arr items => !items.isEmpty
  | .obj fields => !fields.isEmpty

mutual

/-- The readable form of a value; a string is quoted. -/
def quotedText : Json → Text
  | .null => "None".toList
  | .bool true => "True".toList
  | .bool false => "False".toList
  | .int value => signedDecimal value
  | .float value => value.textWith "inf".toList "nan".toList
  | .str value => quoted value
  | .arr items => '[' :: Text.join ", ".toList (quotedTexts items) ++ [']']
  | .obj fields => '\x7b' :: Text.join ", ".toList (quotedFields fields) ++ ['\x7d']

/-- The readable forms of the items of a list. -/
def quotedTexts : List Json → List Text
  | [] => []
  | item :: items => quotedText item :: quotedTexts items

/-- The readable forms of the fields of an object. -/
def quotedFields : List (Text × Json) → List Text
  | [] => []
  | (name, value) :: fields =>
    (quoted name ++ ": ".toList ++ quotedText value) :: quotedFields fields

end

/-- The plain text of a value: a string as it is, anything else in readable form. -/
def plainText : Json → Text
  | .str value => value
  | value => quotedText value

@[simp]
theorem plainText_str (value : Text) : plainText (.str value) = value := rfl

end Json

end NoteTemplate
