import NoteTemplate.Text.Basic

/-!
# Paths on disk

A path is a row of names behind an optional root.  Empty names and single dots are
dropped when a path is read; double dots are kept, because whether they can be
followed depends on the disk.  Resolving a path follows them by name alone.
-/

namespace NoteTemplate

/-- The number of bytes that a text takes. -/
def Text.byteLength : Text → Nat
  | [] => 0
  | c :: rest => c.utf8Size + byteLength rest

theorem Text.byteLength_append (front behind : Text) :
    Text.byteLength (front ++ behind) = front.byteLength + behind.byteLength := by
  induction front with
  | nil => rw [List.nil_append, byteLength, Nat.zero_add]
  | cons c front ih => rw [List.cons_append, byteLength, byteLength, ih, Nat.add_assoc]

/-- A path; the root is empty for a path that starts at the working folder. -/
structure DiskPath where
  root : Text
  parts : List Text
deriving DecidableEq, Repr

namespace DiskPath

/-- The root at the start of a path.  Exactly two slashes are a root of their own. -/
def rootOf : Text → Text
  | '/' :: '/' :: '/' :: _ => ['/']
  | '/' :: '/' :: _ => ['/', '/']
  | '/' :: _ => ['/']
  | _ => []

/-- The names of a path, without empty ones and single dots. -/
def partsOf (text : Text) : List Text :=
  (Text.splitOn '/' text).filter fun part => !part.isEmpty && part ≠ ['.']

/-- Read a path. -/
def ofText (text : Text) : DiskPath := ⟨rootOf text, partsOf text⟩

/-- Does the text of a path end in an empty name or in a single dot?  Whoever follows it
as it is written finds a folder there or nothing, even where a file has the name in
front. -/
def namesFolder (text : Text) : Bool :=
  let last := (Text.splitOn '/' text).getLast?
  last = some [] || last = some ['.']

/-- The path as it is shown. -/
def text (path : DiskPath) : Text :=
  match path.root ++ Text.join ['/'] path.parts with
  | [] => ['.']
  | shown => shown

def isAbsolute (path : DiskPath) : Bool := !path.root.isEmpty

/-- The path of something inside a folder. -/
def append (path : DiskPath) (parts : List Text) : DiskPath :=
  { path with parts := path.parts ++ parts }

/-- The folder that a path stands in. -/
def parent (path : DiskPath) : DiskPath := { path with parts := path.parts.dropLast }

/-- Has the path a null character?  No file system takes one. -/
def hasNull (path : DiskPath) : Bool := path.parts.any fun part => part.contains '\x00'

/-- The number of bytes that the path takes, with slashes between its names. -/
def byteLength (path : DiskPath) : Nat :=
  path.root.byteLength + (Text.join ['/'] path.parts).byteLength

/-- The folder that a path starts at, when `here` is the working folder. -/
def origin (here : List Text) (path : DiskPath) : List Text :=
  if path.isAbsolute then [] else here

/-- Follow names from a place; double dots go back by one name. -/
def follow (place : List Text) : List Text → List Text
  | [] => place
  | part :: parts =>
    if part = ['.', '.'] then follow place.dropLast parts else follow (place ++ [part]) parts

/-- The place that a path names, without looking at the disk. -/
def resolve (here : List Text) (path : DiskPath) : List Text :=
  follow (path.origin here) path.parts

end DiskPath

end NoteTemplate
