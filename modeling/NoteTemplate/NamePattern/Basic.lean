import NoteTemplate.Number.Decimal

/-!
# Patterns of file names

A pattern describes the names that a title can have on disk.  It is a row of pieces
without nesting: characters of a set, repeated a number of times; the suffix of an
ordinal; and the counter, whose digits are what the pattern is for.  A pattern has
to match a whole name.

A pattern is written in the common notation of regular expressions.
-/

namespace NoteTemplate

/-- Sets of characters that a pattern can ask for. -/
inductive CharSet where
  /-- This character. -/
  | only (c : Char)
  /-- A decimal digit of any script. -/
  | digit
  /-- A letter of ASCII. -/
  | letter
  /-- Any character but a line feed. -/
  | any
  /-- One of the listed characters, none of which has a meaning inside brackets. -/
  | among (members : Text)
  /-- A character of a range. -/
  | range (first last : Char)
deriving DecidableEq, Repr

/-- A part of a pattern. -/
inductive PatternPiece where
  /-- Characters of a set, at least `least` and at most `most` of them; `greedy` tells
  whether as many or as few as possible are tried first. -/
  | chars (set : CharSet) (least : Nat) (most : Option Nat) (greedy : Bool)
  /-- The suffix of an English ordinal. -/
  | ordinalSuffix
  /-- The digits of the counter, at least one. -/
  | counter
deriving DecidableEq, Repr

/-- A pattern that a whole name has to match. -/
abbrev NamePattern := List PatternPiece

namespace PatternPiece

/-- One character of a set. -/
def one (set : CharSet) : PatternPiece := .chars set 1 (some 1) true

/-- A number of characters of a set. -/
def exactly (count : Nat) (set : CharSet) : PatternPiece := .chars set count (some count) true

/-- One or two digits. -/
def oneOrTwoDigits : PatternPiece := .chars .digit 1 (some 2) true

/-- At least one character of a set. -/
def atLeastOne (set : CharSet) : PatternPiece := .chars set 1 none true

/-- Anything on one line, as little as possible. -/
def gap : PatternPiece := .chars .any 0 none false

/-- Anything on one line, as much as possible. -/
def anything : PatternPiece := .chars .any 0 none true

/-- The piece is the counter. -/
def isCounter : PatternPiece → Bool
  | .counter => true
  | _ => false

end PatternPiece

/-- Characters with a meaning in the notation of patterns. -/
def patternSpecials : Text := ".*+?^$\x7b\x7d()|[]\\".toList

/-- A character as it is written in a pattern. -/
def escapeChar (c : Char) : Text := if patternSpecials.contains c then ['\\', c] else [c]

/-- A text as it is written in a pattern that matches only this text. -/
def escapePattern (text : Text) : Text := text.flatMap escapeChar

/-- The set in the notation of patterns. -/
def CharSet.source : CharSet → Text
  | .only c => escapeChar c
  | .digit => ['\\', 'd']
  | .letter => "[A-Za-z]".toList
  | .any => ['.']
  | .among members => '[' :: members ++ [']']
  | .range first last => ['[', first, '-', last, ']']

/-- How a number of repetitions is written. -/
def repetitionSource (least : Nat) (most : Option Nat) : Text :=
  match least, most with
  | 0, none => ['*']
  | 1, none => ['+']
  | least, none => '\x7b' :: decimal least ++ [',', '\x7d']
  | least, some most =>
    if least = 1 ∧ most = 1 then []
    else if least = most then '\x7b' :: decimal least ++ ['\x7d']
    else '\x7b' :: decimal least ++ ',' :: decimal most ++ ['\x7d']

/-- The suffixes of English ordinals. -/
def ordinalSuffixes : List Text := [['s', 't'], ['n', 'd'], ['r', 'd'], ['t', 'h']]

/-- The piece in the notation of patterns. -/
def PatternPiece.source : PatternPiece → Text
  | .chars set least most greedy =>
    set.source ++ repetitionSource least most ++ (if greedy then [] else ['?'])
  | .ordinalSuffix => "(?:".toList ++ Text.join ['|'] ordinalSuffixes ++ [')']
  | .counter => "(\\d+)".toList

namespace NamePattern

/-- The pieces in the notation of patterns, one after the other. -/
def piecesSource (pattern : NamePattern) : Text := pattern.flatMap PatternPiece.source

/-- The pattern in the notation of patterns, tied to both ends of the name. -/
def source (pattern : NamePattern) : Text := '^' :: pattern.piecesSource ++ ['$']

/-- The pattern that only this text matches. -/
def ofText (text : Text) : NamePattern := text.map fun c => .one (.only c)

/-- How many counters the pattern has. -/
def counters (pattern : NamePattern) : Nat := pattern.countP PatternPiece.isCounter

end NamePattern

end NoteTemplate
