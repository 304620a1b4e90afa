import NoteTemplate.Json.Basic

/-!
# Reading JSON

The grammar is that of RFC 8259, with the words `NaN`, `Infinity` and `-Infinity`
added as numbers.  Of several fields with one name the last one counts, in the
place of the first.  A fault comes with its place and the reason; a text that
starts with a byte order mark is refused before anything else.

An integer of more than 4300 digits is a fault of its own kind, and so are lists and
objects that are nested too deep: such a text can be well-formed, but it is not taken.
The half of a surrogate pair that is written alone is no character; it is read as one
for private use, a different one for every half.
-/

namespace NoteTemplate

/-- Why a text is not read as JSON. -/
inductive JsonFault where
  /-- The text breaks the grammar at a position. -/
  | malformed (reason : Text) (position : Nat)
  /-- An integer has too many digits. -/
  | tooManyDigits (count : Nat)
  /-- More lists and objects stand inside each other than are read. -/
  | nestedTooDeep
deriving DecidableEq, Repr

/-- The words that refuse a number with too many digits; how many is known when they
are read. -/
def tooManyDigitsMessage (count : Option Nat) : Text :=
  "Exceeds the limit (4300 digits) for integer string conversion".toList
    ++ (match count with
      | some count => ": value has ".toList ++ decimal count ++ " digits".toList
      | none => [])
    ++ "; use sys.set_int_max_str_digits() to increase the limit".toList

/-- The words that refuse a text whose lists and objects are nested too deep. -/
def nestedTooDeepMessage : Text := "lists and objects are nested too deep".toList

/-- What is wrong with the text, in words; the place is given by line, column and
character. -/
def JsonFault.message (text : Text) : JsonFault → Text
  | .malformed reason position =>
    let before := text.take position
    let line := before.count '\n' + 1
    let column := (before.reverse.takeWhile (· ≠ '\n')).length + 1
    reason ++ ": line ".toList ++ decimal line ++ " column ".toList ++ decimal column
      ++ " (char ".toList ++ decimal position ++ [')']
  | .tooManyDigits count => tooManyDigitsMessage (some count)
  | .nestedTooDeep => nestedTooDeepMessage

namespace JsonReader

/-- What is left of the text, and its position. -/
structure Cursor where
  position : Nat
  rest : Text

def Cursor.fault {α : Type} (cursor : Cursor) (reason : String) : Except JsonFault α :=
  .error (.malformed reason.toList cursor.position)

def Cursor.advance (cursor : Cursor) (count : Nat) : Cursor :=
  ⟨cursor.position + count, cursor.rest.drop count⟩

def isSpace (c : Char) : Bool := c = ' ' || c = '\t' || c = '\n' || c = '\r'

def Cursor.skipSpace (cursor : Cursor) : Cursor :=
  cursor.advance (cursor.rest.takeWhile isSpace).length

def hexValue? (c : Char) : Option Nat :=
  if c.isDigit then some (c.toNat - 48)
  else if 'a' ≤ c ∧ c ≤ 'f' then some (c.toNat - 87)
  else if 'A' ≤ c ∧ c ≤ 'F' then some (c.toNat - 55)
  else none

/-- The value of four hexadecimal digits at the start of the text.  Something has to
follow them, since they stand inside a string. -/
def hex4? : Text → Option Nat
  | a :: b :: c :: d :: _ :: _ => do
    let a ← hexValue? a
    let b ← hexValue? b
    let c ← hexValue? c
    let d ← hexValue? d
    return ((a * 16 + b) * 16 + c) * 16 + d
  | _ => none

/-- The low half of a surrogate pair, written as an escape at the start of the
text. -/
def lowSurrogate? : Text → Option Nat
  | '\\' :: 'u' :: rest => do
    let unit ← hex4? rest
    if 0xdc00 ≤ unit ∧ unit ≤ 0xdfff then some unit else none
  | _ => none

/-- The character of a code unit.  A half of a surrogate pair has one for private use. -/
def unitChar (unit : Nat) : Char :=
  if 0xd800 ≤ unit ∧ unit ≤ 0xdfff then Char.ofNat (0x102000 + unit) else Char.ofNat unit

/-- The character that a one-letter escape stands for. -/
def escaped? : Char → Option Char
  | '"' => some '"'
  | '\\' => some '\\'
  | '/' => some '/'
  | 'b' => some '\x08'
  | 'f' => some '\x0c'
  | 'n' => some '\n'
  | 'r' => some '\r'
  | 't' => some '\t'
  | _ => none

/-- The characters of a string up to its closing quote.  The first number counts
the characters that belong to an escape already read; `opening` is the place of the
opening quote. -/
def stringFrom (opening : Nat) : (skip position : Nat) → Text → Except JsonFault (Text × Cursor)
  | _, _, [] => .error (.malformed "Unterminated string starting at".toList opening)
  | skip + 1, position, _ :: rest => stringFrom opening skip (position + 1) rest
  | 0, position, c :: rest =>
    if c = '"' then .ok ([], ⟨position + 1, rest⟩)
    else if c = '\\' then
      match rest with
      | [] => .error (.malformed "Unterminated string starting at".toList opening)
      | 'u' :: digits =>
        match hex4? digits with
        | none => .error (.malformed "Invalid \\uXXXX escape".toList (position + 1))
        | some unit =>
          match (if 0xd800 ≤ unit ∧ unit ≤ 0xdbff then lowSurrogate? (digits.drop 4) else none)
              with
          | some low =>
            cons (Char.ofNat (0x10000 + (unit - 0xd800) * 0x400 + (low - 0xdc00)))
              (stringFrom opening 11 (position + 1) rest)
          | none => cons (unitChar unit) (stringFrom opening 5 (position + 1) rest)
      | letter :: _ =>
        match escaped? letter with
        | some meant => cons meant (stringFrom opening 1 (position + 1) rest)
        | none => .error (.malformed "Invalid \\escape".toList position)
    else if c.toNat < 0x20 then
      .error (.malformed "Invalid control character at".toList position)
    else cons c (stringFrom opening 0 (position + 1) rest)
where
  cons (c : Char) : Except JsonFault (Text × Cursor) → Except JsonFault (Text × Cursor)
    | .ok (text, cursor) => .ok (c :: text, cursor)
    | .error fault => .error fault

/-- The value of a row of decimal digits. -/
def digitsNumber (digits : Text) : Nat :=
  digits.foldl (fun value c => 10 * value + (c.toNat - 48)) 0

/-- The fraction at the start of the text: a point and at least one digit. -/
def fraction? : Text → Option Text
  | '.' :: rest =>
    let digits := rest.takeWhile Char.isDigit
    if digits.isEmpty then none else some digits
  | _ => none

/-- The exponent at the start of the text: its sign, its digits and its length. -/
def exponent? : Text → Option (Bool × Text × Nat)
  | c :: rest =>
    if c = 'e' ∨ c = 'E' then
      let signed := rest.head? = some '+' ∨ rest.head? = some '-'
      let digits := (if signed then rest.drop 1 else rest).takeWhile Char.isDigit
      if digits.isEmpty then none
      else some (rest.head? = some '-', digits, digits.length + (if signed then 2 else 1))
    else none
  | [] => none

/-- The number at the cursor. -/
def number (cursor : Cursor) : Except JsonFault (Json × Cursor) :=
  let negative : Bool := cursor.rest.head? = some '-'
  let start := if negative then cursor.advance 1 else cursor
  let digits :=
    if start.rest.head? = some '0' then ['0'] else start.rest.takeWhile Char.isDigit
  if digits.isEmpty then cursor.fault "Expecting value"
  else
    let behind := start.advance digits.length
    let fraction := fraction? behind.rest
    let behind :=
      match fraction with
      | some places => behind.advance (places.length + 1)
      | none => behind
    match fraction, exponent? behind.rest with
    | none, none =>
      if maxNumeralDigits < digits.length then .error (.tooManyDigits digits.length)
      else
        let value : Int := digitsNumber digits
        .ok (.int (if negative then -value else value), behind)
    | _, exponent =>
      let places := fraction.getD []
      let (down, shown, length) := exponent.getD (false, [], 0)
      let shift : Int := digitsNumber shown
      .ok (.float (Binary64.ofDecimal negative (digitsNumber (digits ++ places))
        ((if down then -shift else shift) - places.length)), behind.advance length)

/-- The words that are values, longest first. -/
def words : List (Text × Json) :=
  [("null".toList, .null), ("true".toList, .bool true), ("false".toList, .bool false),
   ("NaN".toList, .float .notANumber), ("Infinity".toList, .float (.infinite false)),
   ("-Infinity".toList, .float (.infinite true))]

mutual

/-- The value at the cursor.  The first number is fuel, which bounds the nesting together
with the number of items; `depth` is how many lists and objects may still be opened. -/
def value : (fuel depth : Nat) → Cursor → Except JsonFault (Json × Cursor)
  | 0, _, cursor => cursor.fault "Expecting value"
  | fuel + 1, depth, cursor =>
    match cursor.rest with
    | '"' :: rest => do
      let (text, behind) ← stringFrom cursor.position 0 (cursor.position + 1) rest
      return (.str text, behind)
    | '[' :: _ => do
      if depth = 0 then throw .nestedTooDeep
      let inside := (cursor.advance 1).skipSpace
      if inside.rest.head? = some ']' then return (.arr [], inside.advance 1)
      else
        let (items, behind) ← items fuel (depth - 1) inside
        return (.arr items, behind)
    | '\x7b' :: _ => do
      if depth = 0 then throw .nestedTooDeep
      let inside := (cursor.advance 1).skipSpace
      if inside.rest.head? = some '\x7d' then return (.obj [], inside.advance 1)
      else
        let (fields, behind) ← fields fuel (depth - 1) [] inside
        return (.obj fields, behind)
    | rest =>
      match words.find? fun word => word.1.isPrefixOf rest with
      | some word => .ok (word.2, cursor.advance word.1.length)
      | none => number cursor

/-- The items of a list up to its closing bracket. -/
def items : (fuel depth : Nat) → Cursor → Except JsonFault (List Json × Cursor)
  | 0, _, cursor => cursor.fault "Expecting value"
  | fuel + 1, depth, cursor => do
    let (item, behind) ← value fuel depth cursor
    let behind := behind.skipSpace
    match behind.rest with
    | ']' :: _ => return ([item], behind.advance 1)
    | ',' :: _ =>
      let (more, last) ← items fuel depth (behind.advance 1).skipSpace
      return (item :: more, last)
    | _ => behind.fault "Expecting ',' delimiter"

/-- The fields of an object up to its closing brace, added to those already read. -/
def fields : (fuel depth : Nat) → List (Text × Json) → Cursor →
    Except JsonFault (List (Text × Json) × Cursor)
  | 0, _, _, cursor => cursor.fault "Expecting value"
  | fuel + 1, depth, read, cursor =>
    match cursor.rest with
    | '"' :: rest => do
      let (name, behind) ← stringFrom cursor.position 0 (cursor.position + 1) rest
      let behind := behind.skipSpace
      match behind.rest with
      | ':' :: _ =>
        let (item, behind) ← value fuel depth (behind.advance 1).skipSpace
        let behind := behind.skipSpace
        let read := Keyed.set name item read
        match behind.rest with
        | '\x7d' :: _ => return (read, behind.advance 1)
        | ',' :: _ => fields fuel depth read (behind.advance 1).skipSpace
        | _ => behind.fault "Expecting ',' delimiter"
      | _ => behind.fault "Expecting ':' delimiter"
    | _ => cursor.fault "Expecting property name enclosed in double quotes"

end

end JsonReader

/-- Read a text as one JSON value, in which up to `maxNesting` lists and objects stand inside
each other. -/
def Json.read (maxNesting : Nat) (text : Text) : Except JsonFault Json := do
  if text.head? = some '\ufeff' then
    .error (.malformed "Unexpected UTF-8 BOM (decode using utf-8-sig)".toList 0)
  else
    let start : JsonReader.Cursor := ⟨0, text⟩
    let (result, behind) ← JsonReader.value (2 * text.length + 2) maxNesting start.skipSpace
    let behind := behind.skipSpace
    if behind.rest.isEmpty then return result
    else behind.fault "Extra data"

end NoteTemplate
