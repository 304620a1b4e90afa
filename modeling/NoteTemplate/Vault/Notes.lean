import NoteTemplate.Title.Filename
import NoteTemplate.Vault.Storage

/-!
# Notes of a vault

A new note gets the first free name among the wanted one and the wanted one with the
numbers 1, 2 and so on behind it, so no existing note is overwritten.  Lists of folders and
notes are made by walking through the vault and are sorted.
-/

namespace NoteTemplate

/-- The extension of notes. -/
def noteExtension : Text := ['m', 'd']

/-- The name of a note whose title leaves nothing. -/
def untitled : Text := "Untitled".toList

/-- How many names are tried for a note. -/
def maxNameAttempts : Nat := 1000

/-- A note that was created. -/
structure CreatedNote where
  path : Text
  filename : Text
  conflictResolved : Bool
deriving DecidableEq, Repr

/-- The path of a note. -/
def notePath (folder filename : Text) : Text :=
  joinPath folder (filename ++ '.' :: noteExtension)

/-- The path ends in the extension of notes. -/
def hasNoteExtension (path : Text) : Bool := ('.' :: noteExtension).isSuffixOf path

namespace Vault

/-- Make sure that a folder exists. -/
def ensureFolder (vault : Vault) (folder : Text) : Action Unit := do
  if isRootPath folder then pure ()
  else if !(← vault.contains folder) then vault.createFolder folder
  else if !(← vault.hasFolder folder) then throw (.noFolder folder)
  else pure ()

/-- The first free name among those with a number behind the wanted name, from
`number` on; `left` of them are tried. -/
def freeNumberedName (vault : Vault) (folder wanted : Text) : (left number : Nat) → Action Text
  | 0, _ => throw (.noFreeName wanted folder maxNameAttempts)
  | left + 1, number => do
    let candidate := wanted ++ ' ' :: decimal number
    if ← vault.contains (notePath folder candidate) then
      vault.freeNumberedName folder wanted left (number + 1)
    else return candidate

/-- The first free name for a note. -/
def freeName (vault : Vault) (folder wanted : Text) : Action Text := do
  if ← vault.contains (notePath folder wanted) then
    vault.freeNumberedName folder wanted (maxNameAttempts - 1) 1
  else return wanted

/-- Create a note for a title.  The title is cleaned, the folder is created if need
be, and a free name is taken. -/
def createNote (vault : Vault) (folder title content : Text) : Action CreatedNote := do
  let cleaned := cleanFilename title
  let wanted := if cleaned.isEmpty then untitled else cleaned
  vault.ensureFolder folder
  let filename ← vault.freeName folder wanted
  let path := notePath folder filename
  vault.create path content
  return ⟨path, filename, filename ≠ wanted⟩

/-- The text of a template file; none when there is no such file. -/
def templateContent? (vault : Vault) (path : Text) : Action (Option Text) := do
  if path.isEmpty then return none
  else if !(← vault.contains path) then return none
  else if ← vault.hasFolder path then return none
  else return some (← vault.read path)

/-- All entries below the pending folders.  Each step visits one folder; `fuel`
bounds the number of steps. -/
def walk (vault : Vault) : (fuel : Nat) → List Text → Action (List VaultEntry)
  | 0, _ | _, [] => return []
  | fuel + 1, folder :: pending => do
    let entries ← vault.children folder
    let folders := (entries.filter VaultEntry.isFolder).map VaultEntry.path
    return entries ++ (← vault.walk fuel (folders.reverse ++ pending))

/-- All entries below a folder. -/
def entriesBelow (vault : Vault) (folder : Text) : Action (List VaultEntry) := do
  let count := (← get).tree.nodes.length + 1
  vault.walk (count * count) [folder]

/-- All folders, the root first and the others sorted. -/
def allFolders (vault : Vault) : Action (List Text) := do
  let entries ← vault.entriesBelow vaultRoot
  let folders := (entries.filter VaultEntry.isFolder).map VaultEntry.path
  return vaultRoot :: folders.mergeSort Text.le

/-- All notes below a folder, sorted. -/
def notesBelow (vault : Vault) (folder : Text) : Action (List Text) := do
  let entries ← vault.entriesBelow (normalizePath folder)
  let notes := entries.filter fun entry => !entry.isFolder && entry.extension = noteExtension
  return (notes.map VaultEntry.path).mergeSort Text.le

end Vault

end NoteTemplate
