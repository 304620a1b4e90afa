import NoteTemplate.Markdown.Fence
import NoteTemplate.Text.Blank
import NoteTemplate.Text.Lowercase
import NoteTemplate.Text.Word

/-!
# What is being typed

While a template is typed, the last line up to the cursor shows what may come next:
a variable, or one of the parts of a prompt.  The query is the part that is half
typed, and it always ends at the cursor.  In a fenced code block nothing is offered.

Words of the grammar count in any case, which for the letters `i`, `k` and `s`
includes the dotless and the dotted capital i, the Kelvin sign and the long s.
-/

namespace NoteTemplate

/-- The part of a template that is being typed. -/
inductive ContextKind where
  | variable | opening | name | valueType | format | formatToken
deriving DecidableEq, Repr

namespace ContextKind

/-- All kinds. -/
def all : List ContextKind := [.variable, .opening, .name, .valueType, .format, .formatToken]

/-- The name of a kind. -/
def label : ContextKind → Text
  | .variable => "variable".toList
  | .opening => "opening".toList
  | .name => "name".toList
  | .valueType => "value_type".toList
  | .format => "format".toList
  | .formatToken => "format_token".toList

/-- The kind with the given name. -/
def ofLabel? (label : Text) : Option ContextKind := all.find? fun kind => kind.label = label

end ContextKind

/-- What is being typed at the cursor; `start` is where the query starts. -/
structure TypingContext where
  kind : ContextKind
  query : Text
  start : Nat
  name : Option Text
  valueType : Option Text
  formatContent : Option Text
  afterComma : Bool
deriving DecidableEq, Repr

namespace Typing

/-- The characters that equal a small letter when case does not matter. -/
def sameLetter (letter c : Char) : Bool :=
  c.toLower = letter || (letter = 'i' && (c = 'ı' || c = 'İ'))

/-- A letter from a to z when case does not matter. -/
def isAnyCaseLetter (c : Char) : Bool :=
  c.isAlpha || c = 'ı' || c = 'İ' || c = 'ſ' || c = '\u212a'

/-- A character of the name of a preset when case does not matter. -/
def isPresetChar (c : Char) : Bool := isAnyCaseLetter c || c.isDigit || c = '-'

/-- Does the text start with a word, when case does not matter? -/
def startsWithWord : (word : Text) → Text → Bool
  | [], _ => true
  | _ :: _, [] => false
  | letter :: word, c :: text => sameLetter letter c && startsWithWord word text

/-- The longest end of a text whose characters all satisfy a condition. -/
def trailing (keep : Char → Bool) (text : Text) : Text :=
  (text.reverse.takeWhile keep).reverse

/-- The two characters that open a prompt. -/
def tagOpening : Text := ['\x7b', '%']

/-- The texts behind the openings of prompts in a line, from left to right. -/
def openedTexts : Text → List Text
  | [] => []
  | c :: rest =>
    if tagOpening.isPrefixOf (c :: rest) then rest.drop 1 :: openedTexts rest
    else openedTexts rest

/-- The name before the first colon, and the text behind that colon.  The part
before the colon is not empty and has no percent sign; a mark in front of it does
not belong to the name. -/
def cutName? (opened : Text) : Option (Text × Text) :=
  match Text.cutAt? ':' opened with
  | none => none
  | some (before, rest) =>
    if before.isEmpty || before.contains '%' then none
    else
      let marked : Bool := before.head? = some '?' && 2 ≤ before.length
      some (Text.trim (if marked then before.drop 1 else before), rest)

/-- The types that take a format. -/
def formatTypes : List Text := ["date".toList, "time".toList, "datetime".toList]

/-- The type that takes a format at the start of a text, in lower case, and the text
behind the colon that follows it. -/
def cutFormatType? (text : Text) : Option (Text × Text) :=
  formatTypes.findSome? fun word =>
    let rest := text.drop word.length
    if startsWithWord word text && rest.head? = some ':' then
      some (Text.lower (text.take word.length), rest.drop 1)
    else none

/-- Behind `{{`: the beginning of the name of a variable. -/
def variableQuery? (line : Text) : Option Text :=
  let query := trailing isWordChar line
  let before := line.take (line.length - query.length)
  if ['\x7b', '\x7b'].isSuffixOf before then some query else none

/-- Directly behind the opening of a prompt and blanks. -/
def isOpening (line : Text) : Bool :=
  let line := Text.trimRight line
  tagOpening.isSuffixOf line || (tagOpening ++ ['?']).isSuffixOf line

/-- Inside `format(`: the name, the type and the format so far. -/
def formatInside? (opened : Text) : Option (Text × Text × Text) := do
  let (name, rest) ← cutName? opened
  let (valueType, rest) ← cutFormatType? rest
  let word := "format(".toList
  let inside := rest.drop word.length
  if word.isPrefixOf rest && !inside.contains ')' then return (name, valueType, inside) else none

/-- Behind the first colon: the name and the beginning of a type. -/
def typeInside? (opened : Text) : Option (Text × Text) := do
  let (name, rest) ← cutName? opened
  let query := Text.trimLeft rest
  if query.all isAnyCaseLetter then return (name, query) else none

/-- Behind the second colon: the name, the type, the beginning of a preset, and
whether a preset and a comma stand before it. -/
def presetInside? (opened : Text) : Option (Text × Text × Text × Bool) := do
  let (name, rest) ← cutName? opened
  let (valueType, rest) ← cutFormatType? rest
  let typed := Text.trimLeft rest
  if typed.all isPresetChar then return (name, valueType, typed, false)
  else
    let (first, query) ← Text.cutAt? ',' typed
    if !first.isEmpty && first.all isPresetChar && query.all isPresetChar then
      return (name, valueType, query, true)
    else none

/-- Behind the opening and a blank: the beginning of a name. -/
def nameInside? (opened : Text) : Option Text :=
  let opened := if opened.head? = some '?' then opened.drop 1 else opened
  let query := Text.trimLeft opened
  let hasBlank := query.length < opened.length
  if hasBlank && query.all (fun c => !isBlank c && c ≠ ':' && c ≠ '%') then some query else none

end Typing

open Typing

/-- What is being typed at the end of a line; `cursor` is the place of the end. -/
def lineContext? (cursor : Nat) (line : Text) : Option TypingContext :=
  let context (kind : ContextKind) (query : Text) : TypingContext :=
    ⟨kind, query, cursor - query.length, none, none, none, false⟩
  let opened := openedTexts line
  match variableQuery? line with
  | some query => some (context .variable query)
  | none =>
  if isOpening line then some (context .opening [])
  else
  match opened.findSome? formatInside? with
  | some (name, valueType, content) =>
    some { context .formatToken (trailing Char.isAlpha content) with
      name := some name
      valueType := some valueType
      formatContent := some content }
  | none =>
  match opened.findSome? typeInside? with
  | some (name, query) => some { context .valueType query with name := some name }
  | none =>
  match opened.findSome? presetInside? with
  | some (name, valueType, query, afterComma) =>
    some { context .format query with
      name := some name
      valueType := some valueType
      afterComma := afterComma }
  | none => (opened.findSome? nameInside?).map (context .name)

/-- What is being typed at the end of a text, if something can be offered there. -/
def typingContext? (text : Text) : Option TypingContext :=
  if insideCodeBlock (codeBlocks text) text.length then none
  else
    let line := trailing (· ≠ '\n') text
    lineContext? text.length line

end NoteTemplate
