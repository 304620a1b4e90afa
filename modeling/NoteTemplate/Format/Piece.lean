import NoteTemplate.Format.Token
import NoteTemplate.Text.Occurrence

/-!
# Reading a date format

A format is cut into tokens and literal text.  At every position the longest token
that stands there is taken; characters at which no token stands are literal, and
neighbouring literal characters form one piece.  The texts of the pieces put
together are the format (`flatMap_formatPieces`).
-/

namespace NoteTemplate

/-- A token, or text that stands for itself. -/
inductive FormatPiece where
  | token (token : Token)
  | literal (text : Text)
deriving DecidableEq, Repr

namespace FormatPiece

/-- The piece as it stands in the format. -/
def text : FormatPiece → Text
  | .token shown => shown.symbol
  | .literal kept => kept

def isToken : FormatPiece → Bool
  | .token _ => true
  | .literal _ => false

/-- Is the piece a token for a part of a date? -/
def isDateToken : FormatPiece → Bool
  | .token shown => shown.category.isDate
  | .literal _ => false

/-- Is the piece a token for a part of a time of day? -/
def isTimeToken : FormatPiece → Bool
  | .token shown => shown.category.isTime
  | .literal _ => false

/-- Put a literal character in front of the pieces; it joins a literal piece. -/
def consLiteral (c : Char) : List FormatPiece → List FormatPiece
  | .literal kept :: pieces => .literal (c :: kept) :: pieces
  | pieces => .literal [c] :: pieces

/-- The pieces of the rest of a format after its first `skip` characters. -/
def scan : (skip : Nat) → Text → List FormatPiece
  | _, [] => []
  | skip + 1, _ :: rest => scan skip rest
  | 0, c :: rest =>
    match Token.longest? (c :: rest) with
    | some found => .token found :: scan (found.symbol.length - 1) rest
    | none => consLiteral c (scan 0 rest)

end FormatPiece

/-- The tokens and the literal text of a format, in order. -/
def formatPieces (format : Text) : List FormatPiece := FormatPiece.scan 0 format

/-- Does the format show a part of a date? -/
def hasDateTokens (format : Text) : Bool := (formatPieces format).any FormatPiece.isDateToken

/-- Does the format show a part of a time of day? -/
def hasTimeTokens (format : Text) : Bool := (formatPieces format).any FormatPiece.isTimeToken

/-- A piece with its place. -/
structure FormatPart (Pos : Type) where
  piece : FormatPiece
  span : Span Pos
deriving DecidableEq, Repr

/-- The part with its place sent elsewhere. -/
def FormatPart.map {Pos Pos' : Type} (f : Pos → Pos') (part : FormatPart Pos) :
    FormatPart Pos' :=
  ⟨part.piece, part.span.map f⟩

/-- The pieces in their places, one directly after the other from `start` on. -/
def placePieces (start : Nat) : List FormatPiece → List (FormatPart Nat)
  | [] => []
  | piece :: pieces =>
    let stop := start + piece.text.length
    ⟨piece, ⟨start, stop⟩⟩ :: placePieces stop pieces

/-- The parts of a format, with their places in it. -/
def formatParts (format : Text) : List (FormatPart Nat) := placePieces 0 (formatPieces format)

theorem Token.isPrefixOf_of_longest? {text : Text} {token : Token}
    (h : Token.longest? text = some token) : token.symbol.isPrefixOf text = true := by
  simpa using List.find?_some h

@[simp]
theorem FormatPiece.flatMap_consLiteral (c : Char) (pieces : List FormatPiece) :
    (consLiteral c pieces).flatMap text = c :: pieces.flatMap text := by
  cases pieces with
  | nil => simp [consLiteral, text]
  | cons piece pieces => cases piece <;> simp [consLiteral, text]

theorem FormatPiece.flatMap_scan (skip : Nat) (format : Text) :
    (scan skip format).flatMap text = format.drop skip := by
  induction format generalizing skip with
  | nil => simp [scan]
  | cons c rest ih =>
    cases skip with
    | succ skip => simp [scan, ih]
    | zero =>
      simp only [scan]
      split
      · next token htoken =>
        have hprefix := List.isPrefixOf_iff_prefix.1 (Token.isPrefixOf_of_longest? htoken)
        obtain ⟨tail, htail⟩ := hprefix
        have hne := token.symbol_ne_nil
        cases hsymbol : token.symbol with
        | nil => exact absurd hsymbol hne
        | cons first symbol =>
          simp only [hsymbol, List.cons_append, List.cons.injEq] at htail
          obtain ⟨rfl, rfl⟩ := htail
          simp [text, hsymbol, ih]
      · simp [ih]

/-- The pieces of a format, put together, are the format. -/
theorem flatMap_formatPieces (format : Text) :
    (formatPieces format).flatMap FormatPiece.text = format := by
  simp [formatPieces, FormatPiece.flatMap_scan]

end NoteTemplate
