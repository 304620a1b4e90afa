import NoteTemplate.Number.Decimal

/-!
# UTF-8

A file is a row of bytes, and it holds text when the bytes are well-formed UTF-8.
A character takes one to four bytes; a first byte tells how many follow, and the
range of the second byte is narrower behind the first bytes 0xE0, 0xED, 0xF0 and
0xF4, so that no character has two spellings and no surrogate has any.
-/

namespace NoteTemplate

/-- Why bytes are not well-formed UTF-8. -/
inductive Utf8Flaw where
  | invalidStart
  | invalidContinuation
  | unexpectedEnd
deriving DecidableEq, Repr

/-- A flaw in a row of bytes: the bytes from `start` up to, and not including,
`stop` are not a character; `first` is the first of them. -/
structure Utf8Fault where
  flaw : Utf8Flaw
  first : Nat
  start : Nat
  stop : Nat
deriving DecidableEq, Repr

namespace Utf8

/-- How many bytes follow a first byte, and the bits that the first byte has. -/
def lead? (first : Nat) : Option (Nat × Nat) :=
  if first < 0x80 then some (0, first)
  else if first < 0xc2 then none
  else if first < 0xe0 then some (1, first - 0xc0)
  else if first < 0xf0 then some (2, first - 0xe0)
  else if first < 0xf5 then some (3, first - 0xf0)
  else none

/-- May the byte follow, when it is the second byte of its character? -/
def isSecond (first byte : Nat) : Bool :=
  (if first = 0xe0 then 0xa0 else if first = 0xf0 then 0x90 else 0x80) ≤ byte
    && byte < (if first = 0xed then 0xa0 else if first = 0xf4 then 0x90 else 0xc0)

/-- May the byte follow, when it is the third or fourth byte of its character? -/
def isTail (byte : Nat) : Bool := 0x80 ≤ byte && byte < 0xc0

/-- Read the `left` last bytes of a character, of which `taken` bytes were read.
A flaw comes with the number of bytes that were read in vain. -/
def takeTails (first : Nat) :
    (left taken value : Nat) → List UInt8 → Except (Utf8Flaw × Nat) Nat
  | 0, _, value, _ => .ok value
  | _ + 1, taken, _, [] => .error (.unexpectedEnd, taken)
  | left + 1, taken, value, byte :: rest =>
    if (if taken = 1 then isSecond first byte.toNat else isTail byte.toNat) then
      takeTails first left (taken + 1) (value * 64 + (byte.toNat - 0x80)) rest
    else .error (.invalidContinuation, taken)

/-- Read one character: its code point and the number of bytes behind the first. -/
def takeChar (first : Nat) (rest : List UInt8) : Except (Utf8Flaw × Nat) (Char × Nat) :=
  match lead? first with
  | none => .error (.invalidStart, 1)
  | some (count, bits) => do
    let value ← takeTails first count 1 bits rest
    return (Char.ofNat value, count)

/-- The characters of the bytes that start at position `pos`, behind the first
`skip` bytes. -/
def decodeFrom : (pos skip : Nat) → List UInt8 → Except Utf8Fault Text
  | _, _, [] => .ok []
  | pos, skip + 1, _ :: rest => decodeFrom (pos + 1) skip rest
  | pos, 0, byte :: rest =>
    match takeChar byte.toNat rest with
    | .ok (c, count) => (decodeFrom (pos + 1) count rest).map (c :: ·)
    | .error (flaw, length) => .error ⟨flaw, byte.toNat, pos, pos + length⟩

/-- The text that the bytes spell. -/
def decode (bytes : List UInt8) : Except Utf8Fault Text := decodeFrom 0 0 bytes

end Utf8

/-- What is wrong with the bytes, in words. -/
def Utf8Fault.message (fault : Utf8Fault) : Text :=
  let place :=
    if fault.stop = fault.start + 1 then
      "byte 0x".toList ++ paddedHex 2 fault.first ++ " in position ".toList ++ decimal fault.start
    else
      "bytes in position ".toList ++ decimal fault.start ++ '-' :: decimal (fault.stop - 1)
  let reason :=
    match fault.flaw with
    | .invalidStart => "invalid start byte"
    | .invalidContinuation => "invalid continuation byte"
    | .unexpectedEnd => "unexpected end of data"
  "'utf-8' codec can't decode ".toList ++ place ++ ": ".toList ++ reason.toList

end NoteTemplate
