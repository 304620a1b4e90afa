import NoteTemplate.Disk.Session
import NoteTemplate.Vault.Path

/-!
# A vault on disk

A vault is a folder of notes.  Its operations take paths of the vault and refuse any
that leads out of it.  Files and folders whose names start with a dot are not listed.
-/

namespace NoteTemplate

/-- The folder that holds the notes. -/
structure Vault where
  root : DiskPath
deriving DecidableEq, Repr

namespace Vault

/-- The path on disk, without a check. -/
def diskPath (vault : Vault) (path : Text) : DiskPath := vault.root.append (vaultParts path)

/-- The path on disk.  A path that leads out of the vault is refused. -/
def toDisk (vault : Vault) (path : Text) : Action DiskPath := do
  let target := vault.diskPath path
  Action.checkPath target
  let here := (← get).here
  if (vault.root.resolve here).isPrefixOf (target.resolve here) then return target
  else throw (.escapesVault path)

/-- The path in the vault of a path on disk. -/
def ofDisk (vault : Vault) (path : DiskPath) : Action Text := do
  Action.checkPath path
  let here := (← get).here
  let root := vault.root.resolve here
  let place := path.resolve here
  if root.isPrefixOf place then
    return normalizePath (Text.join ['/'] (place.drop root.length))
  else
    let shown (place : List Text) : Text := '/' :: Text.join ['/'] place
    throw (.outsideVault (shown place) (shown root))

/-- Is the name hidden from lists? -/
def isHidden (name : Text) : Bool := name.head? = some '.'

/-- The entries directly inside a folder, sorted by name.  Each of them is looked at by its
path. -/
def children (vault : Vault) (folder : Text) : Action (List VaultEntry) := do
  let target ← vault.toDisk folder
  let shown := (← Action.children target).filter fun child => !isHidden child.1
  shown.forM fun child => Action.checkLength (target.append [child.1])
  return shown.map fun child => ⟨joinPath folder child.1, child.2.isFolder⟩

/-- The text of a note. -/
def read (vault : Vault) (path : Text) : Action Text := do
  Action.readText (← vault.toDisk path)

/-- Replace the text of an existing note. -/
def modify (vault : Vault) (path content : Text) : Action Unit := do
  let target ← vault.toDisk path
  if (← Action.node? target).any DiskNode.isFile then Action.writeFile target content
  else throw (.noNote path)

/-- Create a note that does not exist yet. -/
def create (vault : Vault) (path content : Text) : Action Unit := do
  Action.createFile (← vault.toDisk path) content

/-- Is there a file or folder at the path? -/
def contains (vault : Vault) (path : Text) : Action Bool := do
  return (← Action.node? (← vault.toDisk path)).isSome

/-- Is there a folder at the path? -/
def hasFolder (vault : Vault) (path : Text) : Action Bool := do
  return (← Action.node? (← vault.toDisk path)).any DiskNode.isFolder

/-- Create a folder and those that it needs. -/
def createFolder (vault : Vault) (path : Text) : Action Unit := do
  Action.makeFolders (← vault.toDisk path)

end Vault

end NoteTemplate
