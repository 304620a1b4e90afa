import NoteTemplate.NamePattern.Basic

/-!
# Matching a file name

The pieces of a pattern are tried from left to right.  A piece offers its ways to
match as the texts that would be left, the preferred one first, and the first way
that lets the other pieces match the rest is taken.  At the end of the name one line
feed may be left.
-/

namespace NoteTemplate

/-- Is the character in the set? -/
def CharSet.holds : CharSet → Char → Bool
  | .only c, d => c = d
  | .digit, d => isDigit d
  | .letter, d => d.isAlpha
  | .any, d => d ≠ '\n'
  | .among members, d => members.contains d
  | .range first last, d => first ≤ d && d ≤ last

/-- The texts that are left behind at least `least` and at most `most` characters of
a set, fewest characters first. -/
def restsAfter (set : CharSet) : (least : Nat) → (most : Option Nat) → Text → List Text
  | least, _, [] => if least = 0 then [[]] else []
  | least, most, c :: rest =>
    let later :=
      if set.holds c && most ≠ some 0 then
        restsAfter set (least - 1) (most.map (· - 1)) rest
      else []
    if least = 0 then (c :: rest) :: later else later

/-- The texts that a piece can leave, the preferred one first. -/
def PatternPiece.rests : PatternPiece → Text → List Text
  | .chars set least most greedy, text =>
    let rests := restsAfter set least most text
    if greedy then rests.reverse else rests
  | .ordinalSuffix, text =>
    ordinalSuffixes.filterMap fun suffix =>
      if suffix.isPrefixOf text then some (text.drop suffix.length) else none
  | .counter, text => (restsAfter .digit 1 none text).reverse

namespace NamePattern

/-- Match a text up to its end.  The result is the text of the first counter, if the
pattern has one. -/
def match? : NamePattern → Text → Option (Option Text)
  | [], rest => if rest = [] ∨ rest = ['\n'] then some none else none
  | piece :: pieces, text =>
    (piece.rests text).findSome? fun rest =>
      (match? pieces rest).map fun captured =>
        if piece.isCounter then some (text.take (text.length - rest.length)) else captured

/-- Does the pattern match the name? -/
def accepts (pattern : NamePattern) (name : Text) : Bool := (pattern.match? name).isSome

/-- The value of the counter in a name.  A counter with too many digits has none. -/
def counterIn? (pattern : NamePattern) (name : Text) : Option Nat :=
  match pattern.match? name with
  | some (some digits) =>
    if digits.length ≤ maxNumeralDigits then some (digitsValue digits) else none
  | _ => none

end NamePattern

end NoteTemplate
