import NoteTemplate.Calendar.Week
import NoteTemplate.Json.Reader
import NoteTemplate.Json.StoredText
import NoteTemplate.Text.Utf8

/-!
# Failures

Whatever can stop an operation is one of these causes.  A cause keeps what is known
about it; the words that are shown for it are made in one place, `Failure.message`.
-/

namespace NoteTemplate

/-- What the file system refuses. -/
inductive SystemError where
  | notFound
  | alreadyExists
  | notFolder
  | isFolder
  | nameTooLong
deriving DecidableEq, Repr

/-- The number of the error. -/
def SystemError.number : SystemError → Nat
  | .notFound => 2
  | .alreadyExists => 17
  | .notFolder => 20
  | .isFolder => 21
  | .nameTooLong => 36

/-- The error in words. -/
def SystemError.description : SystemError → Text
  | .notFound => "No such file or directory".toList
  | .alreadyExists => "File exists".toList
  | .notFolder => "Not a directory".toList
  | .isFolder => "Is a directory".toList
  | .nameTooLong => "File name too long".toList

/-- Why an operation stops. -/
inductive Failure where
  /-- A date is needed that the calendar does not have. -/
  | calendar (error : CalendarError)
  /-- A value is of a kind that the operation does not take. -/
  | wrongKind
  /-- A value does not have the parts that the operation asks it for. -/
  | missingPart
  /-- An object lacks a field. -/
  | missingField (name : Text)
  /-- The value is not the name of a type of prompt. -/
  | unknownValueType (value : Json)
  /-- The text is not the numeral of an integer. -/
  | notInteger (text : Text)
  /-- An integer has too many digits; how many is known when they are read. -/
  | tooManyDigits (count : Option Nat)
  /-- The value is not a number, so it has no integer part. -/
  | notNumber
  /-- The number is infinite, so it has no integer part. -/
  | infiniteNumber
  /-- The text is not well-formed JSON. -/
  | malformedJson (text : Text) (fault : JsonFault)
  /-- The lists and objects of a JSON text are nested too deep. -/
  | nestedTooDeep
  /-- The bytes of a file are not UTF-8. -/
  | notUtf8 (fault : Utf8Fault)
  /-- The outermost value of a settings file is not an object. -/
  | notObject
  /-- A settings file cannot be used. -/
  | badSettings (path : Text) (cause : Failure)
  /-- A path leads out of the vault. -/
  | escapesVault (path : Text)
  /-- A file is not in the vault. -/
  | outsideVault (path root : Text)
  /-- A path has a null character. -/
  | nullInPath
  /-- The file system refuses an operation on a path. -/
  | system (error : SystemError) (path : Text)
  /-- There is no such folder in the vault. -/
  | noFolder (path : Text)
  /-- There is no such note in the vault. -/
  | noNote (path : Text)
  /-- Every name that was tried is taken. -/
  | noFreeName (name folder : Text) (attempts : Nat)
  /-- A text has a character that no text file can hold. -/
  | unwritable
  /-- The console refuses a message. -/
  | unprintable (reason : Text)
deriving DecidableEq, Repr

/-- The words of a calendar error. -/
def CalendarError.message : CalendarError → Text
  | .yearOutOfRange year => "year ".toList ++ signedDecimal year ++ " is out of range".toList
  | .dayOutOfMonth => "day is out of range for month".toList
  | .dayTooLarge day => "day ".toList ++ signedDecimal day ++ " does not fit in 32 bits".toList
  | .dateOverflow => "date value out of range".toList

/-- The words that are shown for a failure. -/
def Failure.message : Failure → Text
  | .calendar error => error.message
  | .wrongKind => "the value is of the wrong kind".toList
  | .missingPart => "the value does not have that part".toList
  | .missingField name => quoted name
  | .unknownValueType value => value.quotedText ++ " is not a valid ValueType".toList
  | .notInteger text =>
    "invalid literal for int() with base 10: ".toList ++ (quoted text).take 200
  | .tooManyDigits count => tooManyDigitsMessage count
  | .notNumber => "cannot convert float NaN to integer".toList
  | .infiniteNumber => "cannot convert float infinity to integer".toList
  | .malformedJson text fault => fault.message text
  | .nestedTooDeep => nestedTooDeepMessage
  | .notUtf8 fault => fault.message
  | .notObject => "top level must be an object".toList
  | .badSettings path cause =>
    "Invalid settings file ".toList ++ path ++ ": ".toList ++ cause.message
  | .escapesVault path => "Path escapes the vault: ".toList ++ path
  | .outsideVault path root =>
    quoted path ++ " is not in the subpath of ".toList ++ quoted root
  | .nullInPath => "embedded null byte".toList
  | .system error path =>
    "[Errno ".toList ++ decimal error.number ++ "] ".toList ++ error.description
      ++ ": ".toList ++ quoted path
  | .noFolder path => path
  | .noNote path => path
  | .noFreeName name folder attempts =>
    "No free filename for ".toList ++ quoted name ++ " in ".toList ++ quoted folder
      ++ " after ".toList ++ decimal attempts ++ " attempts".toList
  | .unwritable => "the text cannot be encoded".toList
  | .unprintable reason => reason

end NoteTemplate
