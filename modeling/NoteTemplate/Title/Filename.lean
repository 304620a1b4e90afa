import NoteTemplate.Text.Blank

/-!
# File names

A title becomes the name of a file that is valid on every common system.  A colon
and a bar are exchanged for characters that look like them; other characters that
are not allowed, and control characters, are deleted; runs of blanks become one
space, and spaces and dots at the ends are dropped.

The first step works character by character, so it also applies to a part of a
title.
-/

namespace NoteTemplate

/-- Characters that no file name may have. -/
def isForbiddenInFilename (c : Char) : Bool :=
  c = '*' || c = '"' || c = '\\' || c = '/' || c = '<' || c = '>' || c = '?'

/-- The control characters of ASCII. -/
def isControl (c : Char) : Bool := c.toNat < 0x20 || c.toNat = 0x7f

/-- What becomes of one character. -/
def cleanChar? (c : Char) : Option Char :=
  if c = ':' then some '⦂'
  else if c = '|' then some '∣'
  else if isForbiddenInFilename c || isControl c then none
  else some c

/-- The text without the characters that a file name cannot have. -/
def cleanCharacters (text : Text) : Text := text.filterMap cleanChar?

/-- The text with every run of blanks turned into one space.  `inRun` tells that a
space was just written. -/
def collapseBlanksFrom (inRun : Bool) : Text → Text
  | [] => []
  | c :: rest =>
    if isBlank c then
      if inRun then collapseBlanksFrom true rest else ' ' :: collapseBlanksFrom true rest
    else c :: collapseBlanksFrom false rest

/-- The text with every run of blanks turned into one space. -/
def collapseBlanks (text : Text) : Text := collapseBlanksFrom false text

/-- Spaces and dots do not stand at the ends of a file name: a dot in front hides
the file, and one behind is lost on some systems. -/
def isFilenameEdge (c : Char) : Bool := c = ' ' || c = '.'

/-- The name of the file for a title. -/
def cleanFilename (title : Text) : Text :=
  Text.trimWhile isFilenameEdge (collapseBlanks (cleanCharacters title))

/-- Has the text a character that the value of a text prompt may not have? -/
def hasInvalidValueChars (text : Text) : Bool :=
  text.any fun c => isForbiddenInFilename c || c = '|' || c = ':' || c.toNat < 0x20

@[simp]
theorem cleanCharacters_nil : cleanCharacters [] = [] := rfl

/-- Cleaning the characters works part by part. -/
@[simp]
theorem cleanCharacters_append (left right : Text) :
    cleanCharacters (left ++ right) = cleanCharacters left ++ cleanCharacters right := by
  simp [cleanCharacters, List.filterMap_append]

end NoteTemplate
