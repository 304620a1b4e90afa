import NoteTemplate.Number.Decimal
import NoteTemplate.Text.Printable

/-!
# Quoted text

A quoted text stands on one line and shows every character unambiguously.  It is
put between apostrophes, or between double quotes when it has an apostrophe and no
double quote.  The quote in use, the backslash and all characters that are not
printable are written as escapes that start with a backslash.
-/

namespace NoteTemplate

/-- The quotation mark around a text. -/
def quoteMark (text : Text) : Char :=
  if text.contains '\'' && !text.contains '"' then '"' else '\''

/-- A character as it is written between two quotation marks. -/
def quotedChar (mark c : Char) : Text :=
  if c = mark ∨ c = '\\' then ['\\', c]
  else if c = '\n' then ['\\', 'n']
  else if c = '\r' then ['\\', 'r']
  else if c = '\t' then ['\\', 't']
  else if isPrintable c then [c]
  else if c.toNat < 0x100 then '\\' :: 'x' :: paddedHex 2 c.toNat
  else if c.toNat < 0x10000 then '\\' :: 'u' :: paddedHex 4 c.toNat
  else '\\' :: 'U' :: paddedHex 8 c.toNat

/-- The text in quotation marks. -/
def quoted (text : Text) : Text :=
  let mark := quoteMark text
  mark :: text.flatMap (quotedChar mark) ++ [mark]

end NoteTemplate
