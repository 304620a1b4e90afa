import NoteTemplate.Disk.Tree
import NoteTemplate.Prompt.Extraction
import NoteTemplate.Terminal.Message

/-!
# Working on a disk

A session has a disk and a working folder, collects the notices that are handed to the console
beside the results, and numbers the prompts that are met.  An action changes the session and
either has a result or fails; what it changed before it failed stays changed.
-/

namespace NoteTemplate

/-- The state that actions change. -/
structure Session where
  tree : DiskTree
  here : List Text
  /-- Lines in the markup of the console. -/
  notices : List Text
  nextPrompt : Nat
  /-- How many lists and objects of a JSON text may stand inside each other before the stack of
  calls is full. -/
  maxNesting : Nat
deriving DecidableEq, Repr

/-- A step of work on a session. -/
abbrev Action (α : Type) := ExceptT Failure (StateM Session) α

namespace Action

/-- The result of a computation that needs no session. -/
def ofExcept {α : Type} : Except Failure α → Action α
  | .ok value => pure value
  | .error failure => throw failure

/-- Give a notice, which is written in markup. -/
def notice [Styling] (message : Text) : Action Unit :=
  match Styling.refusal? message with
  | some reason => throw (.unprintable reason)
  | none => modify fun session => { session with notices := session.notices ++ [message] }

/-- Number the prompts of a text. -/
def numbered {α : Type} (extract : Nat → Numbered α) : Action α := do
  let (result, next) := extract (← get).nextPrompt
  modify fun session => { session with nextPrompt := next }
  return result

/-- Refuse a path with a null character. -/
def checkPath (path : DiskPath) : Action Unit :=
  if path.hasNull then throw .nullInPath else pure ()

/-- Where a path leads. -/
def locate (path : DiskPath) : Action (Except SystemError Location) := do
  checkPath path
  let session ← get
  return session.tree.locate session.here path

/-- What a path leads to, if anything.  Nothing can be asked about a name that is too long. -/
def node? (path : DiskPath) : Action (Option DiskNode) := do
  if path.hasNull then return none
  else
    match ← locate path with
    | .ok (.found _ node) => return some node
    | .error .nameTooLong => throw (.system .nameTooLong path.text)
    | _ => return none

/-- Put something at a place. -/
def place (place : List Text) (node : DiskNode) : Action Unit :=
  modify fun session => { session with tree := session.tree.set place node }

/-- The text of a file, with line feeds as line ends. -/
def readText (path : DiskPath) : Action Text := do
  match ← locate path with
  | .ok (.found _ (.file content)) =>
    match content.decode with
    | .ok text => return unixLines text
    | .error fault => throw (.notUtf8 fault)
  | .ok (.found _ .folder) => throw (.system .isFolder path.text)
  | .ok (.vacant _) => throw (.system .notFound path.text)
  | .error error => throw (.system error path.text)

/-- Put a text into the file at a place.  The file is opened first, so it is left empty by a text
that it cannot hold. -/
def fillFile (spot : List Text) (content : Text) : Action Unit := do
  if (← get).tree.takesText content then place spot (.file (.text content))
  else
    place spot (.file (.text []))
    throw .unwritable

/-- Create a file that does not exist yet. -/
def createFile (path : DiskPath) (content : Text) : Action Unit := do
  match ← locate path with
  | .ok (.found _ _) => throw (.system .alreadyExists path.text)
  | .ok (.vacant spot) => fillFile spot content
  | .error error => throw (.system error path.text)

/-- Write a file, whether it exists or not. -/
def writeFile (path : DiskPath) (content : Text) : Action Unit := do
  match ← locate path with
  | .ok (.found _ .folder) => throw (.system .isFolder path.text)
  | .ok (.found spot (.file _)) | .ok (.vacant spot) => fillFile spot content
  | .error error => throw (.system error path.text)

/-- Create one folder, or tell why it cannot be created. -/
def makeFolder (path : DiskPath) : Action (Option SystemError) := do
  match ← locate path with
  | .ok (.found _ _) => return some .alreadyExists
  | .ok (.vacant spot) => place spot .folder; return none
  | .error error => return some error

/-- Accept that a folder could not be created when there is one already. -/
def acceptFolder (path : DiskPath) (error : SystemError) : Action Unit := do
  if (← node? path).any DiskNode.isFolder then pure () else throw (.system error path.text)

/-- Create a folder and those that it needs.  The names of the path are given last
one first. -/
def makeFoldersFrom (root : Text) : List Text → Action Unit
  | [] => pure ()
  | name :: names => do
    let path : DiskPath := ⟨root, (name :: names).reverse⟩
    match ← makeFolder path with
    | none => pure ()
    | some .notFound =>
      makeFoldersFrom root names
      match ← makeFolder path with
      | none => pure ()
      | some .notFound => throw (.system .notFound path.text)
      | some error => acceptFolder path error
    | some error => acceptFolder path error

/-- Create a folder and those that it needs; existing ones stay. -/
def makeFolders (path : DiskPath) : Action Unit := makeFoldersFrom path.root path.parts.reverse

/-- What stands directly inside a folder, sorted by name. -/
def children (path : DiskPath) : Action (List (Text × DiskNode)) := do
  match ← locate path with
  | .ok (.found spot .folder) => return (← get).tree.children spot
  | .ok (.found _ (.file _)) => throw (.system .notFolder path.text)
  | .ok (.vacant _) => throw (.system .notFound path.text)
  | .error error => throw (.system error path.text)

/-- Refuse a path that is too long. -/
def checkLength (path : DiskPath) : Action Unit := do
  if (← get).tree.takesPath path then pure () else throw (.system .nameTooLong path.text)

end Action

end NoteTemplate
