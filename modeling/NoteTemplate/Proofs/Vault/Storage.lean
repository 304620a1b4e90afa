import NoteTemplate.Proofs.Disk.NewFile
import NoteTemplate.Proofs.Disk.Running
import NoteTemplate.Vault.Counter

/-!
# What the operations of a vault give

Every operation that only looks at a vault is a question about the disk below the vault, for
a path that does not lead out of it.
-/

namespace NoteTemplate.Vault

open NoteTemplate.Action

variable {vault : Vault} {path folder : Text} {before after : Session}

/-- The path does not lead out of the vault. -/
structure Admits (vault : Vault) (here : List Text) (path : Text) : Prop where
  noNull : (vault.diskPath path).hasNull = false
  inside : (vault.root.resolve here).isPrefixOf ((vault.diskPath path).resolve here) = true

/-- The path does not lead out of the vault, and something can be asked about it. -/
structure Reaches (vault : Vault) (session : Session) (path : Text) : Prop where
  admits : vault.Admits session.here path
  notTooLong : ¬session.tree.IsTooLong session.here (vault.diskPath path)

/-- What stands at a path of the vault. -/
def nodeIn (vault : Vault) (session : Session) (path : Text) : Option DiskNode :=
  session.tree.node? session.here (vault.diskPath path)

/-- What is listed of a place of the disk. -/
def shownChildren (tree : DiskTree) (place : List Text) : List (Text × DiskNode) :=
  (tree.children place).filter fun child => !isHidden child.1

/-- The entries that are listed for a folder at a place of the disk. -/
def listing (tree : DiskTree) (folder : Text) (place : List Text) : List VaultEntry :=
  (shownChildren tree place).map fun child => ⟨joinPath folder child.1, child.2.isFolder⟩

/-- The entries directly inside a folder, if there is one. -/
def entriesIn (vault : Vault) (session : Session) (folder : Text) : List VaultEntry :=
  match session.tree.locate session.here (vault.diskPath folder) with
  | .ok (.found place .folder) => listing session.tree folder place
  | _ => []

/-- The paths of all that is listed for a folder are short enough. -/
def LooksInto (vault : Vault) (session : Session) (folder : Text) : Prop :=
  ∀ place, session.tree.locate session.here (vault.diskPath folder) = .ok (.found place .folder) →
    ∀ child ∈ shownChildren session.tree place,
      session.tree.takesPath ((vault.diskPath folder).append [child.1]) = true

/-- There is a folder at the path. -/
def HasFolderAt (vault : Vault) (session : Session) (path : Text) : Prop :=
  ∃ place, session.tree.locate session.here (vault.diskPath path) = .ok (.found place .folder)

theorem gives_toDisk_iff {target : DiskPath} :
    (vault.toDisk path).Gives before target after ↔
      vault.Admits before.here path ∧ target = vault.diskPath path ∧ after = before := by
  have hif (h : Prop) [Decidable h] (failure : Failure) :
      (if h then pure (vault.diskPath path) else throw failure : Action DiskPath).Gives before
        target after ↔ h ∧ target = vault.diskPath path ∧ after = before := by
    split
    · next hinside => simp [gives_pure_iff, hinside]
    · next hinside => simp [gives_throw_iff, hinside]
  rw [toDisk]
  simp only [gives_bind_iff, gives_checkPath_iff, gives_get_iff]
  constructor
  · rintro ⟨_, _, ⟨hnull, rfl⟩, _, _, ⟨rfl, rfl⟩, h⟩
    obtain ⟨hinside, htarget, hafter⟩ := (hif _ _).1 h
    exact ⟨⟨hnull, hinside⟩, htarget, hafter⟩
  · rintro ⟨hadmits, htarget, hafter⟩
    exact ⟨⟨⟩, _, ⟨hadmits.noNull, rfl⟩, _, _, ⟨rfl, rfl⟩,
      (hif _ _).2 ⟨hadmits.inside, htarget, hafter⟩⟩

theorem Admits.gives_toDisk (h : vault.Admits before.here path) :
    (vault.toDisk path).Gives before (vault.diskPath path) before :=
  gives_toDisk_iff.2 ⟨h, rfl, rfl⟩

theorem gives_contains_iff {found : Bool} :
    (vault.contains path).Gives before found after ↔
      vault.Reaches before path ∧ found = (vault.nodeIn before path).isSome ∧
        after = before := by
  rw [contains]
  simp only [gives_bind_iff, gives_toDisk_iff, gives_node?_iff, gives_pure_iff]
  constructor
  · rintro ⟨_, _, ⟨hadmits, rfl, rfl⟩, _, _, ⟨hshort, rfl, rfl⟩, rfl, rfl⟩
    exact ⟨⟨hadmits, hshort⟩, rfl, rfl⟩
  · rintro ⟨⟨hadmits, hshort⟩, rfl, rfl⟩
    exact ⟨_, _, ⟨hadmits, rfl, rfl⟩, _, _, ⟨hshort, rfl, rfl⟩, rfl, rfl⟩

theorem gives_hasFolder_iff {found : Bool} :
    (vault.hasFolder path).Gives before found after ↔
      vault.Reaches before path ∧ found = (vault.nodeIn before path).any DiskNode.isFolder ∧
        after = before := by
  rw [hasFolder]
  simp only [gives_bind_iff, gives_toDisk_iff, gives_node?_iff, gives_pure_iff]
  constructor
  · rintro ⟨_, _, ⟨hadmits, rfl, rfl⟩, _, _, ⟨hshort, rfl, rfl⟩, rfl, rfl⟩
    exact ⟨⟨hadmits, hshort⟩, rfl, rfl⟩
  · rintro ⟨⟨hadmits, hshort⟩, rfl, rfl⟩
    exact ⟨_, _, ⟨hadmits, rfl, rfl⟩, _, _, ⟨hshort, rfl, rfl⟩, rfl, rfl⟩

theorem Reaches.gives_contains (h : vault.Reaches before path) :
    (vault.contains path).Gives before (vault.nodeIn before path).isSome before :=
  gives_contains_iff.2 ⟨h, rfl, rfl⟩

theorem Reaches.gives_hasFolder (h : vault.Reaches before path) :
    (vault.hasFolder path).Gives before ((vault.nodeIn before path).any DiskNode.isFolder)
      before :=
  gives_hasFolder_iff.2 ⟨h, rfl, rfl⟩

/-- What stands somewhere can be asked about. -/
theorem Admits.reaches_of_located {location : Location} (h : vault.Admits before.here path)
    (hlocate : before.tree.locate before.here (vault.diskPath path) = .ok location) :
    vault.Reaches before path := by
  refine ⟨h, fun htooLong => ?_⟩
  rw [htooLong.2] at hlocate
  cases hlocate

/-! ### Folders -/

theorem exists_located_of_nodeIn (vault : Vault) {node : DiskNode}
    (h : vault.nodeIn before path = some node) :
    ∃ spot, before.tree.locate before.here (vault.diskPath path) = .ok (.found spot node) :=
  (DiskTree.exists_locate_of_node? h).2

theorem hasFolderAt_iff (hadmits : vault.Admits before.here path) :
    vault.HasFolderAt before path ↔ vault.nodeIn before path = some .folder := by
  constructor
  · rintro ⟨place, hplace⟩
    rw [nodeIn, DiskTree.node?_eq, if_neg (by simp [hadmits.noNull]), hplace]
    rfl
  · exact exists_located_of_nodeIn vault

/-- The question that is asked before a folder is listed. -/
theorem isFolder_nodeIn_iff (hadmits : vault.Admits before.here path) :
    ((vault.nodeIn before path).isSome && (vault.nodeIn before path).any DiskNode.isFolder) =
      true ↔ vault.HasFolderAt before path := by
  rw [hasFolderAt_iff hadmits]
  cases vault.nodeIn before path with
  | none => simp
  | some node => cases node <;> simp [DiskNode.isFolder]

theorem entriesIn_of_not_hasFolderAt (h : ¬ vault.HasFolderAt before folder) :
    vault.entriesIn before folder = [] := by
  rw [entriesIn]
  split
  · next place hplace => exact absurd ⟨place, hplace⟩ h
  · rfl

theorem entriesIn_of_located {place : List Text}
    (h : before.tree.locate before.here (vault.diskPath folder) = .ok (.found place .folder)) :
    vault.entriesIn before folder = listing before.tree folder place := by
  rw [entriesIn, h]

/-- A note is written where it stands. -/
theorem gives_modifyNote_iff {content : Text} {done : Unit} :
    (vault.modify path content).Gives before done after ↔
      vault.Admits before.here path ∧ before.tree.takesText content = true ∧ ∃ spot file,
        before.tree.locate before.here (vault.diskPath path) = .ok (.found spot (.file file)) ∧
          after = { before with tree := before.tree.set spot (.file (.text content)) } := by
  rw [modify]
  simp only [gives_bind_iff, gives_toDisk_iff, gives_node?_iff]
  constructor
  · rintro ⟨_, _, ⟨hadmits, rfl, rfl⟩, _, _, ⟨-, rfl, rfl⟩, h⟩
    refine ⟨hadmits, ?_⟩
    split at h
    · next hfile =>
      obtain ⟨-, htakes, spot, hspot, rfl⟩ := gives_writeFile_iff.1 h
      rcases hspot with hvacant | ⟨file, hspot⟩
      · rw [DiskTree.node?_eq, hvacant] at hfile
        split at hfile <;> cases hfile
      · exact ⟨htakes, spot, file, hspot, rfl⟩
    · exact absurd h gives_throw_iff
  · rintro ⟨hadmits, htakes, spot, file, hspot, rfl⟩
    refine ⟨_, _, ⟨hadmits, rfl, rfl⟩, _, _,
      ⟨(hadmits.reaches_of_located hspot).notTooLong, rfl, rfl⟩, ?_⟩
    rw [DiskTree.node?_eq, hadmits.noNull, hspot]
    exact gives_writeFile_iff.2 ⟨hadmits.noNull, htakes, spot, .inr ⟨file, hspot⟩, rfl⟩

/-- What stands in a folder is listed, unless its name hides it. -/
theorem mem_entriesIn_of_get? {place : List Text} {name : Text} {node : DiskNode}
    (hplace : before.tree.locate before.here (vault.diskPath folder) = .ok (.found place .folder))
    (hshown : isHidden name = false) (hnode : before.tree.get? (place ++ [name]) = some node) :
    ⟨joinPath folder name, node.isFolder⟩ ∈ vault.entriesIn before folder := by
  have hchild : (name, node) ∈ before.tree.children place :=
    DiskTree.mem_children_iff.2 (DiskTree.mem_nodes_of_get? hnode)
  rw [entriesIn_of_located hplace, listing]
  exact List.mem_map.2 ⟨_, List.mem_filter.2 ⟨hchild, by simp [hshown]⟩, rfl⟩

theorem looksInto_of_located {place : List Text}
    (h : before.tree.locate before.here (vault.diskPath folder) = .ok (.found place .folder)) :
    vault.LooksInto before folder ↔ ∀ child ∈ shownChildren before.tree place,
      before.tree.takesPath ((vault.diskPath folder).append [child.1]) = true := by
  constructor
  · exact fun hlooks => hlooks place h
  · intro hchildren other hother
    rw [h] at hother
    cases hother
    exact hchildren

theorem gives_children (hadmits : vault.Admits before.here folder)
    (hfolder : vault.HasFolderAt before folder) {entries : List VaultEntry} :
    (vault.children folder).Gives before entries after ↔ vault.LooksInto before folder ∧
      entries = vault.entriesIn before folder ∧ after = before := by
  obtain ⟨place, hplace⟩ := hfolder
  rw [entriesIn_of_located hplace, looksInto_of_located hplace, children]
  simp only [gives_bind_iff, gives_toDisk_iff, gives_pure_iff, gives_forM_checkLength_iff]
  constructor
  · rintro ⟨_, _, ⟨-, rfl, rfl⟩, _, _, hfound, ⟨⟩, _, ⟨htakes, rfl⟩, rfl, rfl⟩
    obtain ⟨rfl, rfl⟩ := (gives_children_iff hadmits.noNull hplace).1 hfound
    exact ⟨htakes, rfl, rfl⟩
  · rintro ⟨htakes, rfl, rfl⟩
    exact ⟨_, _, ⟨hadmits, rfl, rfl⟩, _, _,
      (gives_children_iff hadmits.noNull hplace).2 ⟨rfl, rfl⟩, ⟨⟩, _, ⟨htakes, rfl⟩, rfl, rfl⟩

end NoteTemplate.Vault
