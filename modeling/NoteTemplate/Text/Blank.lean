import NoteTemplate.Text.CodeRanges

/-!
# Blank characters

Twenty-nine characters separate words: the Unicode characters with the property
White_Space and the four information separators U+001C to U+001F.  Names, types
and values are trimmed by this set, so it has to be the whole of it: a name that
ends in an ideographic space is the name without that space.
-/

namespace NoteTemplate

/-- The code points of the blank characters. -/
def blankRanges : CodeRanges :=
  [(0x9, 0xd), (0x1c, 0x20), (0x85, 0x85), (0xa0, 0xa0), (0x1680, 0x1680),
   (0x2000, 0x200a), (0x2028, 0x2029), (0x202f, 0x202f), (0x205f, 0x205f), (0x3000, 0x3000)]

/-- Is the character blank? -/
def isBlank (c : Char) : Bool := blankRanges.holds c

namespace Text

/-- The text without the blanks it starts with. -/
def trimLeft (text : Text) : Text := text.dropWhile isBlank

/-- The text without the blanks it ends with. -/
def trimRight (text : Text) : Text := dropWhileRight isBlank text

/-- The text without the blanks at its two ends. -/
def trim (text : Text) : Text := trimRight (trimLeft text)

/-- Has the text blanks only?  The empty text has. -/
def isBlankText (text : Text) : Bool := text.all isBlank

end Text

end NoteTemplate
