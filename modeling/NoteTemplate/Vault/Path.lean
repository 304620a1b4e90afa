import NoteTemplate.Text.Basic

/-!
# Paths in a vault

Inside a vault a path is relative to its root, with slashes between the names.  The
root is written as a single slash.  Backslashes count as slashes, and empty names and
single dots are dropped.
-/

namespace NoteTemplate

/-- The names of a path. -/
def vaultParts (path : Text) : List Text :=
  (Text.splitOn '/' (path.map fun c => if c = '\\' then '/' else c)).filter fun part =>
    !part.isEmpty && part ≠ ['.']

/-- The path with the given names. -/
def vaultPath (parts : List Text) : Text :=
  match Text.join ['/'] parts with
  | [] => ['/']
  | path => path

/-- The root of a vault. -/
def vaultRoot : Text := ['/']

/-- The usual form of a path. -/
def normalizePath (path : Text) : Text := vaultPath (vaultParts path)

/-- Does the path name the root? -/
def isRootPath (path : Text) : Bool := normalizePath path = vaultRoot

/-- The path of something inside a folder. -/
def joinPath (folder name : Text) : Text := vaultPath (vaultParts folder ++ vaultParts name)

/-- A file or folder of a vault. -/
structure VaultEntry where
  path : Text
  isFolder : Bool
deriving DecidableEq, Repr

namespace VaultEntry

/-- The last name of the path. -/
def name (entry : VaultEntry) : Text :=
  match Text.cutAtLast? '/' entry.path with
  | some cut => cut.2
  | none => entry.path

/-- What stands behind the last dot of the name of a file. -/
def extension (entry : VaultEntry) : Text :=
  if entry.isFolder then []
  else
    match Text.cutAtLast? '.' entry.name with
    | some cut => cut.2
    | none => []

/-- The name without its extension. -/
def basename (entry : VaultEntry) : Text :=
  if entry.extension.isEmpty then entry.name
  else entry.name.take (entry.name.length - entry.extension.length - 1)

end VaultEntry

end NoteTemplate
