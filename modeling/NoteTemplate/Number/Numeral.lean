import NoteTemplate.Number.Decimal
import NoteTemplate.Text.Blank

/-!
# Reading integers

The numeral of an integer has an optional sign and digits of any script; single
underscores may stand between digits, and blanks around the whole.  The information
separators are no blanks here.  A numeral with too many digits is refused even
when something else follows it.
-/

namespace NoteTemplate

/-- Why a text is not read as an integer. -/
inductive NumeralFault where
  | malformed
  | tooManyDigits (count : Nat)
deriving DecidableEq, Repr

namespace Numeral

/-- The information separators U+001C to U+001F. -/
def isSeparator (c : Char) : Bool := 0x1c ≤ c.toNat && c.toNat ≤ 0x1f

/-- May the character stand around a numeral? -/
def isPadding (c : Char) : Bool := isBlank c && !isSeparator c

/-- The sign at the start of a numeral, and the rest. -/
def cutSign : Text → Bool × Text
  | '-' :: rest => (true, rest)
  | '+' :: rest => (false, rest)
  | text => (false, text)

/-- The natural number that a text denotes. -/
def readNatural (text : Text) : Except NumeralFault Nat :=
  let run := text.takeWhile fun c => isDigit c || c = '_'
  let groups := Text.splitOn '_' run
  let digits := groups.flatten
  if groups.any List.isEmpty then .error .malformed
  else if maxNumeralDigits < digits.length then .error (.tooManyDigits digits.length)
  else if run.length < text.length then .error .malformed
  else .ok (digitsValue digits)

end Numeral

/-- The integer that a text denotes. -/
def readInteger (text : Text) : Except NumeralFault Int := do
  let (negative, rest) := Numeral.cutSign (Text.trimWhile Numeral.isPadding text)
  let value ← Numeral.readNatural rest
  return if negative then -value else value

end NoteTemplate
