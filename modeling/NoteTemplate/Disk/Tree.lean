import NoteTemplate.Disk.Path
import NoteTemplate.Failure

/-!
# Files and folders

A disk is a tree of folders and files, kept as the list of its places.  A file holds
text, or bytes that are not text.  Text is stored with the line ends it was written
with; a reader sees every line end as a line feed.

A path is followed step by step, so a step into a file or behind a missing name is
refused, even when a later double dot would lead back.  A path that is too long is not followed
at all, and a name that is too long is not even looked for where nothing has it.
-/

namespace NoteTemplate

/-- What a file holds. -/
inductive FileContent where
  | text (content : Text)
  | binary (bytes : List UInt8)
deriving DecidableEq, Repr

namespace FileContent

/-- The content that the bytes of a file are. -/
def ofBytes (bytes : List UInt8) : FileContent :=
  match Utf8.decode bytes with
  | .ok decoded => .text decoded
  | .error _ => .binary bytes

/-- The stored text, if the file holds text. -/
def decode : FileContent → Except Utf8Fault Text
  | .text content => .ok content
  | .binary bytes => Utf8.decode bytes

end FileContent

/-- The text with every line end as a line feed. -/
def unixLines : Text → Text
  | [] => []
  | '\r' :: '\n' :: rest => '\n' :: unixLines rest
  | c :: rest => (if c = '\r' then '\n' else c) :: unixLines rest

/-- What stands at a place of the disk. -/
inductive DiskNode where
  | folder
  | file (content : FileContent)
deriving DecidableEq, Repr

def DiskNode.isFolder : DiskNode → Bool
  | .folder => true
  | .file _ => false

def DiskNode.isFile : DiskNode → Bool
  | .folder => false
  | .file _ => true

/-- What a file system takes. -/
structure FileSystem where
  /-- The number of bytes that a name may have. -/
  nameLimit : Nat
  /-- The number of bytes that a path may have. -/
  pathLimit : Nat
  /-- The characters that no text file can hold.  They stand for the bytes that are not UTF-8 in
  names and arguments, which are kept as halves of surrogate pairs. -/
  unwritable : List Char
deriving DecidableEq, Repr

/-- Names of 255 bytes and paths of 4095 bytes. -/
def FileSystem.usual : FileSystem := ⟨255, 4095, []⟩

/-- The places of a disk with what stands there; the root is always a folder. -/
structure DiskTree where
  nodes : List (List Text × DiskNode)
  system : FileSystem
deriving DecidableEq, Repr

/-- Where a path leads. -/
inductive Location where
  /-- Something stands at the place. -/
  | found (place : List Text) (node : DiskNode)
  /-- Nothing stands at the place, but its folder exists. -/
  | vacant (place : List Text)
deriving DecidableEq, Repr

namespace DiskTree

/-- The first entry for a place. -/
def lookup (place : List Text) : List (List Text × DiskNode) → Option DiskNode
  | [] => none
  | entry :: entries => if entry.1 = place then some entry.2 else lookup place entries

/-- What stands at a place. -/
def get? (tree : DiskTree) (place : List Text) : Option DiskNode :=
  if place.isEmpty then some .folder else lookup place tree.nodes

/-- Change the entry for a place, or add one. -/
def setEntry (place : List Text) (node : DiskNode) :
    List (List Text × DiskNode) → List (List Text × DiskNode)
  | [] => [(place, node)]
  | entry :: entries =>
    if entry.1 = place then (place, node) :: entries else entry :: setEntry place node entries

/-- Put something at a place. -/
def set (tree : DiskTree) (place : List Text) (node : DiskNode) : DiskTree :=
  { tree with nodes := setEntry place node tree.nodes }

/-- The name of the place is short enough. -/
def takesPlace (tree : DiskTree) (place : List Text) : Bool :=
  (place.getLast?.getD []).byteLength ≤ tree.system.nameLimit

/-- The path is short enough. -/
def takesPath (tree : DiskTree) (path : DiskPath) : Bool :=
  path.byteLength ≤ tree.system.pathLimit

/-- A file can hold the text. -/
def takesText (tree : DiskTree) (text : Text) : Bool :=
  text.all fun c => !tree.system.unwritable.contains c

/-- What becomes of a path at a place where nothing stands. -/
def missing (tree : DiskTree) (place : List Text) (isLast : Bool) :
    Except SystemError Location :=
  if !tree.takesPlace place then .error .nameTooLong
  else if isLast then .ok (.vacant place) else .error .notFound

/-- Follow a path from a place at which `node` stands. -/
def locateFrom (tree : DiskTree) (place : List Text) (node : DiskNode) :
    List Text → Except SystemError Location
  | [] => .ok (.found place node)
  | part :: parts =>
    if !node.isFolder then .error .notFolder
    else
      let next := DiskPath.follow place [part]
      match tree.get? next with
      | some node => locateFrom tree next node parts
      | none => tree.missing next parts.isEmpty

/-- Follow a path from the working folder `here`. -/
def locate (tree : DiskTree) (here : List Text) (path : DiskPath) :
    Except SystemError Location :=
  if tree.takesPath path then tree.locateFrom (path.origin here) .folder path.parts
  else .error .nameTooLong

/-- What a path leads to, if anything. -/
def node? (tree : DiskTree) (here : List Text) (path : DiskPath) : Option DiskNode :=
  if path.hasNull then none
  else
    match tree.locate here path with
    | .ok (.found _ node) => some node
    | _ => none

/-- The name of an entry directly inside a place. -/
def childName? (place : List Text) (entry : List Text × DiskNode) :
    Option (Text × DiskNode) :=
  match entry.1.getLast? with
  | some name => if entry.1.dropLast = place then some (name, entry.2) else none
  | none => none

/-- What stands directly inside a place, sorted by name. -/
def children (tree : DiskTree) (place : List Text) : List (Text × DiskNode) :=
  (tree.nodes.filterMap (childName? place)).mergeSort fun left right => Text.le left.1 right.1

theorem lookup_setEntry_self (place : List Text) (node : DiskNode)
    (nodes : List (List Text × DiskNode)) :
    lookup place (setEntry place node nodes) = some node := by
  induction nodes with
  | nil => simp [setEntry, lookup]
  | cons entry entries ih => by_cases h : entry.1 = place <;> simp [setEntry, lookup, h, ih]

theorem lookup_setEntry_of_ne {place other : List Text} (hne : other ≠ place) (node : DiskNode)
    (nodes : List (List Text × DiskNode)) :
    lookup other (setEntry place node nodes) = lookup other nodes := by
  induction nodes with
  | nil => simp [setEntry, lookup, Ne.symm hne]
  | cons entry entries ih =>
    by_cases h : entry.1 = place
    · subst h; simp [setEntry, lookup, Ne.symm hne]
    · simp [setEntry, lookup, h, ih]

@[simp] theorem takesPlace_set (tree : DiskTree) (place : List Text) (node : DiskNode)
    (other : List Text) : (tree.set place node).takesPlace other = tree.takesPlace other := rfl

@[simp] theorem takesPath_set (tree : DiskTree) (place : List Text) (node : DiskNode)
    (path : DiskPath) : (tree.set place node).takesPath path = tree.takesPath path := rfl

/-- Putting something at one place changes no other place. -/
theorem get?_set_of_ne (tree : DiskTree) {place other : List Text} (hne : other ≠ place)
    (node : DiskNode) : (tree.set place node).get? other = tree.get? other := by
  simp [get?, set, lookup_setEntry_of_ne hne]

end DiskTree

end NoteTemplate
