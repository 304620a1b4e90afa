import Mathlib.Algebra.Order.BigOperators.Group.List
import NoteTemplate.Proofs.Text.Order
import NoteTemplate.Proofs.Vault.Enclosure
import NoteTemplate.Proofs.Vault.ShownPlaces

/-!
# Walking through a vault

A walk looks into one pending folder after the other and pends the folders that it finds.  It is
bounded, but on a disk where nothing is entered twice the bound is never reached, so it gives what
the walk without a bound ends with (`Visits.gives_walk`).  What it finds is what is shown below the
folder that it starts at, each once.  So the lists of folders and notes are complete, without
repetition and in order, unless the walk comes to a path that is too long
(`gives_allFolders_notesBelow`).
-/

namespace NoteTemplate

/-- A name that a file or folder can have on a disk. -/
structure IsDiskName (name : Text) : Prop where
  ne_nil : name ≠ []
  ne_dot : name ≠ ['.']
  ne_dots : name ≠ ['.', '.']
  no_slash : '/' ∉ name
  no_null : '\x00' ∉ name

instance (name : Text) : Decidable (IsDiskName name) :=
  decidable_of_iff (name ≠ [] ∧ name ≠ ['.'] ∧ name ≠ ['.', '.'] ∧ '/' ∉ name ∧ '\x00' ∉ name)
    ⟨fun h => ⟨h.1, h.2.1, h.2.2.1, h.2.2.2.1, h.2.2.2.2⟩,
      fun h => ⟨h.ne_nil, h.ne_dot, h.ne_dots, h.no_slash, h.no_null⟩⟩

/-- The session works on a disk that there can be: nothing is entered twice, and all names are
names of files. -/
structure Session.IsReal (session : Session) : Prop extends session.IsSound where
  enteredOnce : session.tree.IsEnteredOnce
  isDiskName : ∀ entry ∈ session.tree.nodes, ∀ name ∈ entry.1, IsDiskName name

theorem Session.IsReal.isDiskName_of_get? {session : Session} (h : session.IsReal)
    {place names : List Text} {node : DiskNode}
    (hnode : session.tree.get? (place ++ names) = some node) :
    ∀ name ∈ names, IsDiskName name := by
  rcases List.eq_nil_or_concat' names with rfl | ⟨front, last, rfl⟩
  · exact fun _ hname => absurd hname List.not_mem_nil
  · rw [← List.append_assoc] at hnode
    intro name hname
    apply h.isDiskName _ (DiskTree.mem_nodes_of_get? hnode)
    rw [List.append_assoc]
    exact List.mem_append_right _ hname

/-- The session on a disk that takes paths of this length. -/
def Session.withPathLimit (session : Session) (limit : Nat) : Session :=
  { session with tree := { session.tree with
      system := { session.tree.system with pathLimit := limit } } }

theorem Session.IsReal.withPathLimit {session : Session} (h : session.IsReal) (limit : Nat) :
    (session.withPathLimit limit).IsReal :=
  ⟨⟨h.grounded, h.here_stands⟩, h.enteredOnce, h.isDiskName⟩

theorem below_withPathLimit (session : Session) (limit depth : Nat) (place : List Text) :
    (session.withPathLimit limit).tree.below depth place = session.tree.below depth place := by
  induction depth generalizing place with
  | zero => rfl
  | succ depth ih =>
    rw [DiskTree.below, DiskTree.below, List.flatMap_congr fun spot _ => ih spot]
    rfl

/-- The path of what stands behind the names below a folder. -/
def pathBelow (folder : Text) (names : List Text) : Text := vaultPath (vaultParts folder ++ names)

variable {folder name : Text} {names others : List Text}

theorem pathBelow_nil (folder : Text) : pathBelow folder [] = normalizePath folder := by
  rw [pathBelow, List.append_nil]
  rfl

theorem vaultParts_pathBelow (folder : Text) (hnames : ∀ name ∈ names, IsPathName name) :
    vaultParts (pathBelow folder names) = vaultParts folder ++ names := by
  apply vaultParts_vaultPath
  intro name hname
  rcases List.mem_append.1 hname with hname | hname
  · exact isPathName_of_mem_vaultParts hname
  · exact hnames name hname

theorem pathBelow_concat (folder : Text) (hnames : ∀ name ∈ names, IsPathName name)
    (hname : IsPathName name) :
    pathBelow folder (names ++ [name]) = joinPath (pathBelow folder names) name := by
  rw [joinPath, vaultParts_pathBelow folder hnames, vaultParts_name hname, List.append_assoc]
  rfl

theorem pathBelow_inj (hnames : ∀ name ∈ names, IsPathName name)
    (hothers : ∀ name ∈ others, IsPathName name)
    (h : pathBelow folder names = pathBelow folder others) : names = others := by
  have hparts := congrArg vaultParts h
  rw [vaultParts_pathBelow folder hnames, vaultParts_pathBelow folder hothers] at hparts
  exact List.append_cancel_left hparts

namespace Vault

open NoteTemplate.Action

variable {vault : Vault} {session : Session} {pending more : List Text}
  {found rest : List VaultEntry} {place : List Text} {node : DiskNode} {fuel depth : Nat}

/-! ### The walk without a bound -/

/-- The walk through the pending folders ends and finds these entries.  The entries of a folder are
found when it is looked into, and the folders among them come next, the last one first. -/
inductive Visits (vault : Vault) (session : Session) : List Text → List VaultEntry → Prop
  | done : Visits vault session [] []
  | folder {folder : Text} {pending : List Text} {entries found : List VaultEntry}
      (hentries : (vault.children folder).Gives session entries session)
      (hfound : Visits vault session
        (((entries.filter VaultEntry.isFolder).map VaultEntry.path).reverse ++ pending) found) :
      Visits vault session (folder :: pending) (entries ++ found)

namespace Visits

theorem append (h : vault.Visits session pending found) (h' : vault.Visits session more rest) :
    vault.Visits session (pending ++ more) (found ++ rest) := by
  induction h with
  | done => exact h'
  | folder hentries hfound ih =>
    rw [List.append_assoc]
    rw [List.append_assoc] at ih
    exact .folder hentries ih

/-- Folders that are walked through one by one are walked through together. -/
theorem flatMap {α : Type} {starts : List α} {path : α → Text} {entries : α → List VaultEntry}
    (h : ∀ start ∈ starts, vault.Visits session [path start] (entries start)) :
    vault.Visits session (starts.map path) (starts.flatMap entries) := by
  induction starts with
  | nil => exact .done
  | cons start starts ih =>
    rw [List.forall_mem_cons] at h
    exact h.1.append (ih h.2)

/-- A folder that is looked into is one step, and the folders in it are pending then. -/
theorem steps_le {entries : List VaultEntry}
    (hfuel : (folder :: pending).length +
      ((entries ++ found).filter VaultEntry.isFolder).length ≤ fuel) :
    ∃ left, fuel = left + 1 ∧
      (((entries.filter VaultEntry.isFolder).map VaultEntry.path).reverse ++ pending).length +
        (found.filter VaultEntry.isFolder).length ≤ left := by
  rw [List.filter_append, List.length_append, List.length_cons] at hfuel
  refine ⟨fuel - 1, by omega, ?_⟩
  rw [List.length_append, List.length_reverse, List.length_map]
  omega

/-- With one step for each folder that is found the bounded walk ends too. -/
theorem gives_walk (h : vault.Visits session pending found)
    (hfuel : pending.length + (found.filter VaultEntry.isFolder).length ≤ fuel) :
    (vault.walk fuel pending).Gives session found session := by
  induction h generalizing fuel with
  | done => cases fuel <;> exact gives_pure_iff.2 ⟨rfl, rfl⟩
  | @folder folder pending entries found hentries hfound ih =>
    obtain ⟨left, rfl, hleft⟩ := steps_le hfuel
    rw [walk]
    exact gives_bind_iff.2 ⟨_, _, hentries,
      gives_bind_iff.2 ⟨_, _, ih hleft, gives_pure_iff.2 ⟨rfl, rfl⟩⟩⟩

end Visits

/-- The bound of a walk is not reached where no more is found than the disk holds. -/
theorem steps_le_bound (folder : Text) (hlength : found.length ≤ session.tree.nodes.length) :
    [folder].length + (found.filter VaultEntry.isFolder).length ≤
      (session.tree.nodes.length + 1) * (session.tree.nodes.length + 1) := by
  have hfolders := List.length_filter_le VaultEntry.isFolder found
  have hsquare := Nat.le_mul_self (session.tree.nodes.length + 1)
  rw [List.length_singleton]
  omega

/-! ### What is met on a walk -/

/-- The entry that is found at a place below the folder. -/
def entryAt (folder : Text) (place : List Text) (met : List Text × DiskNode) : VaultEntry :=
  ⟨pathBelow folder (met.1.drop place.length), met.2.isFolder⟩

theorem entryAt_append (folder : Text) (place names : List Text) (node : DiskNode) :
    entryAt folder place (place ++ names, node) = ⟨pathBelow folder names, node.isFolder⟩ := by
  rw [entryAt, List.drop_left]

/-- The folders that are pending when a folder was looked into. -/
theorem reverse_paths_shownIn (tree : DiskTree) (folder : Text) (place spot : List Text) :
    ((((tree.shownIn spot).map (entryAt folder place)).filter
      VaultEntry.isFolder).map VaultEntry.path).reverse =
        (tree.foldersIn spot).map fun child => pathBelow folder (child.drop place.length) := by
  rw [List.filter_map, List.map_map, DiskTree.foldersIn, List.map_reverse, List.map_map]
  rfl

/-- The folder stands at the place on a disk that there can be, and what stands below it can be
named by paths. -/
structure IsWalkable (vault : Vault) (session : Session) (folder : Text) (place : List Text) :
    Prop where
  real : session.IsReal
  opens : vault.OpensAt session folder place
  no_backslash : ∀ ⦃names node⦄, session.tree.get? (place ++ names) = some node →
    ∀ name ∈ names, '\\' ∉ name

/-- The paths of all that is shown below the place are short enough. -/
def TakesBelow (vault : Vault) (session : Session) (folder : Text) (place : List Text) : Prop :=
  ∀ ⦃names node⦄, session.tree.ShowsBelow place names node →
    session.tree.takesPath ((vault.diskPath folder).append names) = true

/-- The entries are those that are shown below the place, and none is there twice. -/
structure AreShownBelow (session : Session) (folder : Text) (place : List Text)
    (found : List VaultEntry) : Prop where
  nodup_paths : (found.map VaultEntry.path).Nodup
  mem_iff : ∀ entry, entry ∈ found ↔ ∃ names node, session.tree.ShowsBelow place names node ∧
    entry = ⟨pathBelow folder names, node.isFolder⟩

namespace IsWalkable

theorem isPathName (h : vault.IsWalkable session folder place)
    (hnode : session.tree.get? (place ++ names) = some node) :
    ∀ name ∈ names, IsPathName name := by
  intro name hname
  have hdisk := h.real.isDiskName_of_get? hnode name hname
  refine ⟨hdisk.ne_nil, hdisk.ne_dot, fun c hc => ⟨?_, ?_⟩⟩
  · rintro rfl
    exact hdisk.no_slash hc
  · rintro rfl
    exact h.no_backslash hnode name hname hc

theorem stands (h : vault.IsWalkable session folder place) :
    session.tree.get? place = some .folder :=
  h.real.get?_of_locate h.opens.located

theorem diskPath_pathBelow (h : vault.IsWalkable session folder place)
    (hnode : session.tree.get? (place ++ names) = some node) :
    vault.diskPath (pathBelow folder names) = (vault.diskPath folder).append names :=
  diskPath_append (vaultParts_pathBelow folder (h.isPathName hnode))

section

variable (h : vault.IsWalkable session folder place)
  (htakes : session.tree.takesPath ((vault.diskPath folder).append names) = true)
  (hfolder : session.tree.get? (place ++ names) = some .folder)

include h htakes hfolder

/-- A folder below an open one is open, if its path is not too long. -/
theorem opensAt_pathBelow : vault.OpensAt session (pathBelow folder names) (place ++ names) := by
  have hdisk := h.real.isDiskName_of_get? hfolder
  have hdots : ['.', '.'] ∉ names := fun hmem => (hdisk _ hmem).ne_dots rfl
  have hparts := vaultParts_pathBelow folder (h.isPathName hfolder)
  refine ⟨h.opens.admits.of_append hparts hdots fun name hname => (hdisk name hname).no_null, ?_⟩
  rw [h.diskPath_pathBelow hfolder]
  exact (DiskTree.locate_append h.opens.located htakes).trans
    (h.real.grounded.locateFrom hdots hfolder)

theorem looksInto_pathBelow_iff : vault.LooksInto session (pathBelow folder names) ↔
    ∀ child ∈ shownChildren session.tree (place ++ names),
      session.tree.takesPath ((vault.diskPath folder).append (names ++ [child.1])) = true := by
  rw [looksInto_of_located (h.opensAt_pathBelow htakes hfolder).located,
    h.diskPath_pathBelow hfolder]
  simp only [DiskPath.append, List.append_assoc]

/-- What is shown in a folder is listed. -/
theorem gives_children (hlooks : vault.LooksInto session (pathBelow folder names)) :
    (vault.children (pathBelow folder names)).Gives session
      ((session.tree.shownIn (place ++ names)).map (entryAt folder place)) session := by
  have hopens := h.opensAt_pathBelow htakes hfolder
  refine (Vault.gives_children hopens.admits ⟨_, hopens.located⟩).2 ⟨hlooks, ?_, rfl⟩
  rw [entriesIn_of_located hopens.located, listing, DiskTree.shownIn, List.map_map]
  apply List.map_congr_left
  rintro ⟨name, node⟩ hchild
  have hmem := DiskTree.mem_children_iff.1 (List.mem_filter.1 hchild).1
  have hnode := h.real.enteredOnce.get?_of_mem (by simp) hmem
  rw [List.append_assoc] at hnode
  have hpath := h.isPathName hnode
  rw [Function.comp_apply, List.append_assoc, entryAt_append, pathBelow_concat]
  · exact fun other hother => hpath other (List.mem_append_left _ hother)
  · exact hpath name (List.mem_append_right _ List.mem_cons_self)

/-- A folder cannot be listed when the path of something shown in it is too long. -/
theorem fails_children (hlooks : ¬vault.LooksInto session (pathBelow folder names)) :
    ∃ child ∈ shownChildren session.tree (place ++ names),
      session.tree.takesPath ((vault.diskPath folder).append (names ++ [child.1])) = false ∧
      (vault.children (pathBelow folder names)).Fails session
        (.system .nameTooLong ((vault.diskPath folder).append (names ++ [child.1])).text)
        session := by
  have hopens := h.opensAt_pathBelow htakes hfolder
  have htarget := hopens.admits.gives_toDisk
  have hfound := (gives_children_iff hopens.admits.noNull hopens.located).2 ⟨rfl, rfl⟩
  rw [h.looksInto_pathBelow_iff htakes hfolder] at hlooks
  simp only [not_forall, Bool.not_eq_true, exists_prop] at hlooks
  obtain ⟨child, hchild, htooLong, hfails⟩ := fails_forM_checkLength hlooks
  refine ⟨child, hchild, htooLong, htarget.bind_fails (hfound.bind_fails (Fails.bind ?_ _))⟩
  rw [h.diskPath_pathBelow hfolder]
  simp only [DiskPath.append, List.append_assoc] at hfails ⊢
  exact hfails

end

/-- What is shown in a folder is shown below the place. -/
theorem showsBelow_of_mem_shownChildren (h : vault.IsWalkable session folder place)
    (hshown : ∀ name ∈ names, isHidden name = false) {child : Text × DiskNode}
    (hchild : child ∈ shownChildren session.tree (place ++ names)) :
    session.tree.ShowsBelow place (names ++ [child.1]) child.2 := by
  obtain ⟨hmem, hname⟩ := List.mem_filter.1 hchild
  have hnode := h.real.enteredOnce.get?_of_mem (by simp) (DiskTree.mem_children_iff.1 hmem)
  rw [List.append_assoc] at hnode
  refine ⟨by simp, List.forall_mem_append.2 ⟨hshown, ?_⟩, hnode⟩
  exact List.forall_mem_singleton.2 (by simpa using hname)

theorem looksInto_of_takesBelow (h : vault.IsWalkable session folder place)
    (hbelow : vault.TakesBelow session folder place)
    (htakes : session.tree.takesPath ((vault.diskPath folder).append names) = true)
    (hfolder : session.tree.get? (place ++ names) = some .folder)
    (hshown : ∀ name ∈ names, isHidden name = false) :
    vault.LooksInto session (pathBelow folder names) :=
  (h.looksInto_pathBelow_iff htakes hfolder).2 fun _ hchild =>
    hbelow (h.showsBelow_of_mem_shownChildren hshown hchild)

/-- The walk meets what is shown below a folder.  The induction is on the depth that the disk has
below it. -/
theorem visits (h : vault.IsWalkable session folder place)
    (hbelow : vault.TakesBelow session folder place)
    (htakes : session.tree.takesPath ((vault.diskPath folder).append names) = true)
    (hfolder : session.tree.get? (place ++ names) = some .folder)
    (hshown : ∀ name ∈ names, isHidden name = false)
    (hdepth : session.tree.EndsWithin (place ++ names) depth) :
    vault.Visits session [pathBelow folder names]
      ((session.tree.below depth (place ++ names)).map (entryAt folder place)) := by
  induction depth generalizing names with
  | zero => exact absurd rfl (hdepth.depth_ne_zero hfolder)
  | succ depth ih =>
    rw [DiskTree.below, List.map_append, List.map_flatMap]
    refine .folder (h.gives_children htakes hfolder
      (h.looksInto_of_takesBelow hbelow htakes hfolder hshown)) ?_
    rw [reverse_paths_shownIn, List.append_nil]
    refine Visits.flatMap fun spot hspot => ?_
    obtain ⟨name, rfl, hname, hstands⟩ :=
      (DiskTree.mem_foldersIn_iff h.real.enteredOnce).1 hspot
    have hnext := hdepth.next name
    rw [List.append_assoc] at hstands hnext ⊢
    rw [List.drop_left]
    have hshownNext : ∀ name ∈ names ++ [_], isHidden name = false :=
      List.forall_mem_append.2 ⟨hshown, List.forall_mem_singleton.2 hname⟩
    exact ih (hbelow ⟨by simp, hshownNext, hstands⟩) hstands hshownNext hnext

/-- Nothing that is shown is met twice, since different places have different paths. -/
theorem areShownBelow (h : vault.IsWalkable session folder place)
    (hdepth : session.tree.EndsWithin place depth) :
    AreShownBelow session folder place
      ((session.tree.below depth place).map (entryAt folder place)) where
  nodup_paths := by
    have honce := h.real.enteredOnce
    rw [List.map_map]
    apply List.Nodup.map_on _ (DiskTree.nodup_below honce depth place)
    rintro ⟨spot, node⟩ hspot ⟨other, stands⟩ hother heq
    obtain ⟨names, rfl, hnames⟩ := DiskTree.showsBelow_of_mem_below honce hspot
    obtain ⟨others, rfl, hothers⟩ := DiskTree.showsBelow_of_mem_below honce hother
    rw [Function.comp_apply, Function.comp_apply, entryAt_append, entryAt_append] at heq
    obtain rfl := pathBelow_inj (h.isPathName hnames.stands) (h.isPathName hothers.stands) heq
    obtain rfl := Option.some.inj (hnames.stands.symm.trans hothers.stands)
    rfl
  mem_iff entry := by
    simp only [List.mem_map, Prod.exists,
      DiskTree.mem_below_iff h.real.enteredOnce h.real.grounded hdepth]
    constructor
    · rintro ⟨_, node, ⟨names, rfl, hshows⟩, rfl⟩
      exact ⟨names, node, hshows, entryAt_append _ _ _ _⟩
    · rintro ⟨names, node, hshows, rfl⟩
      exact ⟨_, node, ⟨names, rfl, hshows⟩, entryAt_append _ _ _ _⟩

end IsWalkable

/-! ### Paths that are too long -/

/-- The operation fails at something that is shown below the place: its path is too long. -/
def IsCutBelow {α : Type} (vault : Vault) (session : Session) (folder : Text) (place : List Text)
    (operation : Action α) : Prop :=
  ∃ names node, session.tree.ShowsBelow place names node ∧
    session.tree.takesPath ((vault.diskPath folder).append names) = false ∧
    operation.Fails session
      (.system .nameTooLong ((vault.diskPath folder).append names).text) session

theorem IsCutBelow.bind {α β : Type} {operation : Action α}
    (h : vault.IsCutBelow session folder place operation) (next : α → Action β) :
    vault.IsCutBelow session folder place (operation >>= next) := by
  obtain ⟨names, node, hshows, htooLong, hfails⟩ := h
  exact ⟨names, node, hshows, htooLong, hfails.bind next⟩

/-- All folders that can be looked into on a walk have paths that are short enough. -/
theorem TakesBelow.takesPath (h : vault.TakesBelow session folder place)
    (hstart : session.tree.takesPath (vault.diskPath folder) = true)
    (hnode : session.tree.get? (place ++ names) = some node)
    (hshown : ∀ name ∈ names, isHidden name = false) :
    session.tree.takesPath ((vault.diskPath folder).append names) = true := by
  cases names with
  | nil =>
    rw [DiskPath.append, List.append_nil]
    exact hstart
  | cons name names => exact h ⟨by simp, hshown, hnode⟩

theorem TakesBelow.not_isCutBelow {α : Type} {operation : Action α}
    (h : vault.TakesBelow session folder place) :
    ¬vault.IsCutBelow session folder place operation := by
  rintro ⟨names, node, hshows, htooLong, -⟩
  rw [h hshows] at htooLong
  cases htooLong

/-- What is shown below a place is among what the disk has entered. -/
theorem takesBelow_of_nodes (h : ∀ entry ∈ session.tree.nodes, session.tree.takesPath
    ((vault.diskPath folder).append (entry.1.drop place.length)) = true) :
    vault.TakesBelow session folder place := by
  intro names node hshows
  obtain ⟨front, name, rfl⟩ := (List.eq_nil_or_concat' names).resolve_left hshows.ne_nil
  have hnode := hshows.stands
  rw [← List.append_assoc] at hnode
  have htakes := h _ (DiskTree.mem_nodes_of_get? hnode)
  rwa [List.append_assoc, List.drop_left] at htakes

/-- The paths of what is shown below a place have some greatest length. -/
theorem exists_pathLimit (vault : Vault) (session : Session) (folder : Text) (place : List Text) :
    ∃ limit, (vault.diskPath folder).byteLength ≤ limit ∧
      vault.TakesBelow (session.withPathLimit limit) folder place := by
  let lengths : List Nat := session.tree.nodes.map fun entry =>
    ((vault.diskPath folder).append (entry.1.drop place.length)).byteLength
  refine ⟨(vault.diskPath folder).byteLength + lengths.sum, Nat.le_add_right _ _,
    takesBelow_of_nodes fun entry hentry => ?_⟩
  have hmem := List.le_sum_of_mem (List.mem_map_of_mem hentry : _ ∈ lengths)
  exact decide_eq_true (hmem.trans (Nat.le_add_left _ _))

namespace IsWalkable

variable {limit : Nat}

theorem withPathLimit (h : vault.IsWalkable session folder place)
    (hlimit : (vault.diskPath folder).byteLength ≤ limit) :
    vault.IsWalkable (session.withPathLimit limit) folder place where
  real := h.real.withPathLimit limit
  opens := by
    have hkeeps (spot : List Text) (hstands : session.tree.get? spot = some .folder) :
        (session.withPathLimit limit).tree.get? spot = some .folder := hstands
    have hfound := DiskTree.locateFrom_of_keepsFolders hkeeps
      (DiskTree.locateFrom_of_locate h.opens.located)
    exact ⟨h.opens.admits, DiskTree.locate_eq_ok_iff.2 ⟨decide_eq_true hlimit, hfound⟩⟩
  no_backslash := h.no_backslash

/-- The path is one of a folder that can be looked into on a walk. -/
def IsPending (vault : Vault) (session : Session) (folder : Text) (place : List Text)
    (path : Text) : Prop :=
  ∃ names, path = pathBelow folder names ∧
    session.tree.takesPath ((vault.diskPath folder).append names) = true ∧
    session.tree.get? (place ++ names) = some .folder ∧ ∀ name ∈ names, isHidden name = false

theorem isPending_of_mem_foldersIn (h : vault.IsWalkable session folder place)
    (htakes : session.tree.takesPath ((vault.diskPath folder).append names) = true)
    (hfolder : session.tree.get? (place ++ names) = some .folder)
    (hshown : ∀ name ∈ names, isHidden name = false)
    (hlooks : vault.LooksInto session (pathBelow folder names)) {spot : List Text}
    (hspot : spot ∈ session.tree.foldersIn (place ++ names)) :
    IsPending vault session folder place (pathBelow folder (spot.drop place.length)) := by
  obtain ⟨name, rfl, hname, hstands⟩ := (DiskTree.mem_foldersIn_iff h.real.enteredOnce).1 hspot
  have hchild : (name, .folder) ∈ shownChildren session.tree (place ++ names) :=
    List.mem_filter.2 ⟨DiskTree.mem_children_iff.2 (DiskTree.mem_nodes_of_get? hstands),
      by simp [hname]⟩
  have hnext := (h.looksInto_pathBelow_iff htakes hfolder).1 hlooks _ hchild
  rw [List.append_assoc] at hstands ⊢
  rw [List.drop_left]
  exact ⟨_, rfl, hnext, hstands,
    List.forall_mem_append.2 ⟨hshown, List.forall_mem_singleton.2 hname⟩⟩

/-- What a walk finds where no path is too long, it finds on the disk too, unless it comes to a
path that is too long there. -/
theorem visits_or_isCutBelow (h : vault.IsWalkable session folder place)
    (hlimit : (vault.diskPath folder).byteLength ≤ limit)
    (hbelow : vault.TakesBelow (session.withPathLimit limit) folder place)
    (hvisits : vault.Visits (session.withPathLimit limit) pending found)
    (hpending : ∀ path ∈ pending, IsPending vault session folder place path)
    (hfuel : pending.length + (found.filter VaultEntry.isFolder).length ≤ fuel) :
    vault.Visits session pending found ∨
      vault.IsCutBelow session folder place (vault.walk fuel pending) := by
  induction hvisits generalizing fuel with
  | done => exact Or.inl .done
  | @folder path pending entries found hentries hfound ih =>
    obtain ⟨left, rfl, hleft⟩ := Visits.steps_le hfuel
    obtain ⟨⟨names, rfl, htakes, hfolder, hshown⟩, hrest⟩ := List.forall_mem_cons.1 hpending
    have hwide := h.withPathLimit hlimit
    have htakesWide := hbelow.takesPath (decide_eq_true hlimit) hfolder hshown
    obtain ⟨rfl, -⟩ := (hwide.gives_children htakesWide hfolder
      (hwide.looksInto_of_takesBelow hbelow htakesWide hfolder hshown)).unique hentries
    rw [walk]
    by_cases hlooks : vault.LooksInto session (pathBelow folder names)
    · have hgives := h.gives_children htakes hfolder hlooks
      have hnext := ih (fun path hpath => ?_) hleft
      · rcases hnext with hvisits | ⟨more, node, hshows, htooLong, hfails⟩
        · exact Or.inl (.folder hgives hvisits)
        · exact Or.inr ⟨more, node, hshows, htooLong, hgives.bind_fails (hfails.bind _)⟩
      · rw [reverse_paths_shownIn] at hpath
        rcases List.mem_append.1 hpath with hpath | hpath
        · obtain ⟨spot, hspot, rfl⟩ := List.mem_map.1 hpath
          exact h.isPending_of_mem_foldersIn htakes hfolder hshown hlooks hspot
        · exact hrest path hpath
    · obtain ⟨child, hchild, htooLong, hfails⟩ := h.fails_children htakes hfolder hlooks
      exact Or.inr ⟨_, _, h.showsBelow_of_mem_shownChildren hshown hchild, htooLong,
        hfails.bind _⟩

/-- A walk ends, and finds each entry that is shown below its folder once, or it comes to a path
that is too long. -/
theorem gives_entriesBelow (h : vault.IsWalkable session folder place) :
    (∃ found, vault.Visits session [normalizePath folder] found ∧
      (vault.entriesBelow (normalizePath folder)).Gives session found session ∧
      AreShownBelow session folder place found) ∨
    vault.IsCutBelow session folder place (vault.entriesBelow (normalizePath folder)) := by
  obtain ⟨depth, hdepth⟩ := session.tree.exists_endsWithin place
  obtain ⟨limit, hlimit, hbelow⟩ := vault.exists_pathLimit session folder place
  have hnil : (vault.diskPath folder).append [] = vault.diskPath folder := by
    rw [DiskPath.append, List.append_nil]
  have hstart : session.tree.get? (place ++ []) = some .folder := by
    rw [List.append_nil]
    exact h.stands
  have hends : session.tree.EndsWithin (place ++ []) depth := by
    rw [List.append_nil]
    exact hdepth
  have hhidden : ∀ name ∈ ([] : List Text), isHidden name = false := List.forall_mem_nil _
  have hvisits : vault.Visits (session.withPathLimit limit) [pathBelow folder []] _ :=
    (h.withPathLimit hlimit).visits hbelow (hnil.symm ▸ decide_eq_true hlimit) hstart hhidden hends
  rw [pathBelow_nil, List.append_nil, below_withPathLimit] at hvisits
  have hshown := h.areShownBelow hdepth
  have hlength : ((session.tree.below depth place).map (entryAt folder place)).length ≤
      session.tree.nodes.length := by
    rw [List.length_map]
    exact DiskTree.length_below_le h.real.enteredOnce depth place
  have hfuel := steps_le_bound (normalizePath folder) hlength
  have hget := gives_get session
  have hpending : ∀ path ∈ [normalizePath folder],
      IsPending vault session folder place path := by
    intro path hpath
    obtain rfl := List.mem_singleton.1 hpath
    exact ⟨[], (pathBelow_nil folder).symm,
      hnil.symm ▸ (DiskTree.locate_eq_ok_iff.1 h.opens.located).1, hstart, hhidden⟩
  rcases h.visits_or_isCutBelow hlimit hbelow hvisits hpending hfuel with hvisits | hcut
  · exact Or.inl ⟨_, hvisits, gives_bind_iff.2 ⟨_, _, hget, hvisits.gives_walk hfuel⟩, hshown⟩
  · obtain ⟨names, node, hshows, htooLong, hfails⟩ := hcut
    exact Or.inr ⟨names, node, hshows, htooLong, hget.bind_fails hfails⟩

end IsWalkable

/-! ### Lists of folders and notes -/

/-- The paths of the entries that are kept, in order. -/
def sortedPaths (keep : VaultEntry → Bool) (found : List VaultEntry) : List Text :=
  ((found.filter keep).map VaultEntry.path).mergeSort Text.le

/-- The entry is a file with the extension of notes. -/
def isNote (entry : VaultEntry) : Bool := !entry.isFolder && entry.extension = noteExtension

theorem mem_sortedPaths_iff {keep : VaultEntry → Bool} {path : Text} :
    path ∈ sortedPaths keep found ↔
      ∃ entry ∈ found, keep entry = true ∧ entry.path = path := by
  simp [sortedPaths, List.mem_mergeSort, and_assoc]

theorem pairwise_lt_sortedPaths (h : (found.map VaultEntry.path).Nodup)
    (keep : VaultEntry → Bool) : (sortedPaths keep found).Pairwise (· < ·) :=
  Text.pairwise_lt_mergeSort (h.sublist (List.filter_sublist.map VaultEntry.path))

/-- Whether a file below the folder is a note is seen from its name. -/
theorem IsWalkable.isNote_iff (h : vault.IsWalkable session folder place)
    (hnode : session.tree.get? (place ++ (names ++ [name])) = some node) :
    isNote ⟨pathBelow folder (names ++ [name]), false⟩ = true ↔ hasNoteExtension name = true := by
  obtain ⟨hnames, hname⟩ := List.forall_mem_append.1 (h.isPathName hnode)
  rw [List.forall_mem_singleton] at hname
  rw [← extension_eq_noteExtension_iff (pathBelow folder names) hname,
    ← pathBelow_concat folder hnames hname]
  simp [isNote]

namespace AreShownBelow

theorem mem_folders_iff (h : AreShownBelow session folder place found) {path : Text} :
    path ∈ sortedPaths VaultEntry.isFolder found ↔
      ∃ names, session.tree.ShowsBelow place names .folder ∧ path = pathBelow folder names := by
  simp only [mem_sortedPaths_iff, h.mem_iff]
  constructor
  · rintro ⟨_, ⟨names, node, hshows, rfl⟩, hisFolder, rfl⟩
    obtain rfl := DiskNode.isFolder_iff.1 hisFolder
    exact ⟨names, hshows, rfl⟩
  · rintro ⟨names, hshows, rfl⟩
    exact ⟨_, ⟨names, _, hshows, rfl⟩, rfl, rfl⟩

theorem mem_notes_iff (h : AreShownBelow session folder place found)
    (hwalk : vault.IsWalkable session folder place) {path : Text} :
    path ∈ sortedPaths isNote found ↔ ∃ names name content,
      session.tree.ShowsBelow place (names ++ [name]) (.file content) ∧
        hasNoteExtension name = true ∧ path = pathBelow folder (names ++ [name]) := by
  simp only [mem_sortedPaths_iff, h.mem_iff]
  constructor
  · rintro ⟨_, ⟨names, node, hshows, rfl⟩, hnote, rfl⟩
    cases node with
    | folder => cases hnote
    | file content =>
      obtain ⟨front, name, rfl⟩ :=
        (List.eq_nil_or_concat' names).resolve_left hshows.ne_nil
      exact ⟨front, name, content, hshows, (hwalk.isNote_iff hshows.stands).1 hnote, rfl⟩
  · rintro ⟨names, name, content, hshows, hends, rfl⟩
    exact ⟨_, ⟨_, _, hshows, rfl⟩, (hwalk.isNote_iff hshows.stands).2 hends, rfl⟩

end AreShownBelow

/-- No name below the vault has a backslash. -/
def IsFreeOfBackslashes (vault : Vault) (session : Session) : Prop :=
  ∀ entry ∈ session.tree.nodes, ∀ names, entry.1 = vault.rootPlace session ++ names →
    ∀ name ∈ names, '\\' ∉ name

/-- A folder that is there can be walked through. -/
theorem isWalkable_of_hasFolder (hreal : session.IsReal)
    (hnames : vault.IsFreeOfBackslashes session)
    (hfolder : (vault.hasFolder folder).Gives session true session) :
    vault.IsWalkable session folder ((vault.diskPath folder).resolve session.here) := by
  obtain ⟨⟨hadmits, -⟩, hany, -⟩ := gives_hasFolder_iff.1 hfolder
  obtain ⟨node, hnode, hisFolder⟩ := (Option.any_eq_true _ _).1 hany.symm
  obtain ⟨spot, hspot⟩ := exists_located_of_nodeIn vault hnode
  obtain rfl := DiskNode.isFolder_iff.1 hisFolder
  obtain rfl : spot = (vault.diskPath folder).resolve session.here :=
    DiskTree.place_eq_follow (DiskTree.locateFrom_of_locate hspot)
  refine ⟨hreal, ⟨hadmits, hspot⟩, fun names stands hstands name hname => ?_⟩
  obtain ⟨front, hfront⟩ := List.isPrefixOf_iff_prefix.1 hadmits.inside
  obtain ⟨before, last, rfl⟩ :=
    (List.eq_nil_or_concat' names).resolve_left (List.ne_nil_of_mem hname)
  rw [← hfront, ← List.append_assoc] at hstands
  have hmem := DiskTree.mem_nodes_of_get? hstands
  rw [List.append_assoc, List.append_assoc] at hmem
  exact hnames _ hmem _ rfl name (List.mem_append_right _ hname)

theorem gives_allFolders {walked : Session}
    (h : (vault.entriesBelow vaultRoot).Gives session found walked) :
    vault.allFolders.Gives session (vaultRoot :: sortedPaths VaultEntry.isFolder found) walked :=
  gives_bind_iff.2 ⟨_, _, h, gives_pure_iff.2 ⟨rfl, rfl⟩⟩

theorem gives_notesBelow {walked : Session}
    (h : (vault.entriesBelow (normalizePath folder)).Gives session found walked) :
    (vault.notesBelow folder).Gives session (sortedPaths isNote found) walked :=
  gives_bind_iff.2 ⟨_, _, h, gives_pure_iff.2 ⟨rfl, rfl⟩⟩

/-- The list of folders is the root and then the paths of all folders of the vault that no name
hides, and the list of notes of a folder has the paths of all files below it that no name from
there on hides and whose names end in the extension of notes.  Both lists are in strict order, so
nothing is in them twice, and they are those of walks that end without a bound.  Where something
that is shown has a path that is too long for the file system, the walk ends there and fails. -/
theorem gives_allFolders_notesBelow (hreal : session.IsReal)
    (hvault : (vault.hasFolder vaultRoot).Gives session true session)
    (hnames : vault.IsFreeOfBackslashes session) :
    ((∃ found folders, vault.Visits session [vaultRoot] found ∧
        folders = sortedPaths VaultEntry.isFolder found ∧
        vault.allFolders.Gives session (vaultRoot :: folders) session ∧
        (vaultRoot :: folders).Nodup ∧ folders.Pairwise (· < ·) ∧
        ∀ path, path ∈ folders ↔ ∃ names,
          session.tree.ShowsBelow (vault.rootPlace session) names .folder ∧
            path = vaultPath names) ∨
      vault.IsCutBelow session vaultRoot (vault.rootPlace session) vault.allFolders) ∧
    ∀ folder, (vault.hasFolder folder).Gives session true session →
      (∃ found notes, vault.Visits session [normalizePath folder] found ∧
        notes = sortedPaths isNote found ∧
        (vault.notesBelow folder).Gives session notes session ∧ notes.Pairwise (· < ·) ∧
        ∀ path, path ∈ notes ↔ ∃ names name content,
          session.tree.ShowsBelow ((vault.diskPath folder).resolve session.here)
            (names ++ [name]) (.file content) ∧
          hasNoteExtension name = true ∧ path = pathBelow folder (names ++ [name])) ∨
      vault.IsCutBelow session folder ((vault.diskPath folder).resolve session.here)
        (vault.notesBelow folder) := by
  constructor
  · have hnil : vaultParts vaultRoot = [] := by decide
    have hroot : normalizePath vaultRoot = vaultRoot := by decide
    have hplace : (vault.diskPath vaultRoot).resolve session.here = vault.rootPlace session := by
      rw [diskPath, hnil, DiskPath.append, List.append_nil]
      rfl
    have hwalk := isWalkable_of_hasFolder hreal hnames hvault
    rw [hplace] at hwalk
    have hends := hwalk.gives_entriesBelow
    rw [hroot] at hends
    rcases hends with ⟨found, hvisits, hgives, hshown⟩ | hcut
    · have hordered := pairwise_lt_sortedPaths hshown.nodup_paths VaultEntry.isFolder
      refine Or.inl ⟨found, _, hvisits, rfl, gives_allFolders hgives, ?_, hordered,
        fun path => ?_⟩
      · refine List.nodup_cons.2 ⟨fun hmem => ?_, hordered.imp ?_⟩
        · obtain ⟨names, hshows, hpath⟩ := hshown.mem_folders_iff.1 hmem
          have hparts := congrArg vaultParts hpath
          rw [vaultParts_pathBelow _ (hwalk.isPathName hshows.stands), hnil, List.nil_append]
            at hparts
          exact hshows.ne_nil hparts.symm
        · rintro path _ hlt rfl
          exact lt_irrefl path hlt
      · rw [hshown.mem_folders_iff]
        simp only [pathBelow, hnil, List.nil_append]
    · exact Or.inr (hcut.bind _)
  · intro folder hfolder
    have hwalk := isWalkable_of_hasFolder hreal hnames hfolder
    rcases hwalk.gives_entriesBelow with ⟨found, hvisits, hgives, hshown⟩ | hcut
    · exact Or.inl ⟨found, _, hvisits, rfl, gives_notesBelow hgives,
        pairwise_lt_sortedPaths hshown.nodup_paths _, fun path => hshown.mem_notes_iff hwalk⟩
    · exact Or.inr (hcut.bind _)

end Vault

/-! ### A vault with two folders -/

/-- The diary with a folder of notes in which another one stands, and a hidden one. -/
def archive : Session where
  tree := ⟨[(["vault".toList], .folder),
    (["vault".toList, "Work".toList], .folder),
    (["vault".toList, "Work".toList, "plan.v2.md".toList], .file (.text [])),
    (["vault".toList, "Work".toList, "list.txt".toList], .file (.text [])),
    (["vault".toList, "Work".toList, ".git".toList], .folder),
    (["vault".toList, "Work".toList, ".git".toList, "head.md".toList], .file (.text [])),
    (["vault".toList, "Work".toList, "Old".toList], .folder),
    (["vault".toList, "Work".toList, "Old".toList, "first.md".toList], .file (.text [])),
    (["vault".toList, "inbox.md".toList], .file (.text []))], .usual⟩
  here := []
  notices := []
  nextPrompt := 0
  maxNesting := 900

/-- The folder in the folder is listed, and so are its note and a note with two dots in its
name. -/
theorem Vault.gives_allFolders_notesBelow_archive :
    archive.IsReal ∧ (diary.hasFolder vaultRoot).Gives archive true archive ∧
    diary.IsFreeOfBackslashes archive ∧
    (diary.hasFolder "Work\\".toList).Gives archive true archive ∧
    ∃ folders notes, diary.allFolders.Gives archive (vaultRoot :: folders) archive ∧
      "Work/Old".toList ∈ folders ∧
      (diary.notesBelow "Work\\".toList).Gives archive notes archive ∧
      "Work/Old/first.md".toList ∈ notes ∧ "Work/plan.v2.md".toList ∈ notes := by
  have hreal : archive.IsReal := ⟨by decide, by decide, by decide⟩
  have hroot : (diary.hasFolder vaultRoot).Gives archive true archive := by
    unfold Action.Gives
    decide +kernel
  have hwork : (diary.hasFolder "Work\\".toList).Gives archive true archive := by
    unfold Action.Gives
    decide +kernel
  have hfree : diary.IsFreeOfBackslashes archive := by
    intro entry hentry names hnames name hname
    have hall : ∀ entry ∈ archive.tree.nodes, ∀ name ∈ entry.1, '\\' ∉ name := by decide
    apply hall entry hentry
    rw [hnames]
    exact List.mem_append_right _ hname
  have hshort : diary.TakesBelow archive vaultRoot (diary.rootPlace archive) :=
    takesBelow_of_nodes (by decide)
  have hshortWork : diary.TakesBelow archive "Work\\".toList
      ((diary.diskPath "Work\\".toList).resolve archive.here) :=
    takesBelow_of_nodes (by decide)
  obtain ⟨hroots, hbelow⟩ := gives_allFolders_notesBelow hreal hroot hfree
  obtain ⟨_, folders, -, -, hfolders, -, -, hlisted⟩ := hroots.resolve_right hshort.not_isCutBelow
  obtain ⟨_, notes, -, -, hnotes, -, hshown⟩ :=
    (hbelow _ hwork).resolve_right hshortWork.not_isCutBelow
  refine ⟨hreal, hroot, hfree, hwork, folders, notes, hfolders, ?_, hnotes, ?_, ?_⟩
  · exact (hlisted _).2 ⟨["Work".toList, "Old".toList], ⟨by simp, by decide, by decide⟩, by decide⟩
  · exact (hshown _).2 ⟨["Old".toList], "first.md".toList, .text [],
      ⟨by simp, by decide, by decide⟩, by decide, by decide⟩
  · exact (hshown _).2 ⟨[], "plan.v2.md".toList, .text [],
      ⟨by simp, by decide, by decide⟩, by decide, by decide⟩

/-- The name of a note, with as many characters as a name may have but five. -/
def longName : Text := List.replicate 247 'n' ++ ".md".toList

/-- The way into a folder and back again, over and over. -/
def longWay : Text := (List.replicate 480 "Work/../".toList).flatten ++ "Work".toList

/-- The diary with a folder in which one note stands. -/
def longArchive : Session where
  tree := ⟨[(["vault".toList], .folder), (["vault".toList, "Work".toList], .folder),
    (["vault".toList, "Work".toList, longName], .file (.text []))], .usual⟩
  here := []
  notices := []
  nextPrompt := 0
  maxNesting := 900

/-- The folder is there, but the path of its note is too long when the folder is spelled so. -/
theorem Vault.notesBelow_longWay :
    longArchive.IsReal ∧ (diary.hasFolder vaultRoot).Gives longArchive true longArchive ∧
    diary.IsFreeOfBackslashes longArchive ∧
    (diary.hasFolder longWay).Gives longArchive true longArchive ∧
    longArchive.tree.ShowsBelow ((diary.diskPath longWay).resolve longArchive.here)
      ([] ++ [longName]) (.file (.text [])) ∧
    hasNoteExtension longName = true ∧
    ∃ failure, (diary.notesBelow longWay).Fails longArchive failure longArchive := by
  have hfree : diary.IsFreeOfBackslashes longArchive := by
    intro entry hentry names hnames name hname
    have hall : ∀ entry ∈ longArchive.tree.nodes, ∀ name ∈ entry.1, '\\' ∉ name := by
      decide +kernel
    apply hall entry hentry
    rw [hnames]
    exact List.mem_append_right _ hname
  have hplace : (diary.diskPath longWay).resolve longArchive.here =
      ["vault".toList, "Work".toList] := by
    decide +kernel
  have hreal : longArchive.IsReal := ⟨by decide +kernel, by decide +kernel, by decide +kernel⟩
  have hroot : (diary.hasFolder vaultRoot).Gives longArchive true longArchive := by
    unfold Action.Gives
    decide +kernel
  have hwork : (diary.hasFolder longWay).Gives longArchive true longArchive := by
    unfold Action.Gives
    decide +kernel
  have hwalk := isWalkable_of_hasFolder hreal hfree hwork
  rw [hplace] at hwalk ⊢
  refine ⟨hreal, hroot, hfree, hwork, ⟨by simp, by decide +kernel, by decide +kernel⟩,
    by decide +kernel, ?_⟩
  rcases hwalk.gives_entriesBelow with ⟨found, hvisits, -⟩ | hcut
  · rw [← pathBelow_nil] at hvisits
    cases hvisits with
    | folder hentries _ =>
      have htakes : longArchive.tree.takesPath ((diary.diskPath longWay).append []) = true := by
        decide +kernel
      have hopens := hwalk.opensAt_pathBelow htakes rfl
      have hlooks := ((gives_children hopens.admits ⟨_, hopens.located⟩).1 hentries).1
      have hnote := (hwalk.looksInto_pathBelow_iff htakes rfl).1 hlooks
        (longName, .file (.text [])) (by decide +kernel)
      exact absurd hnote (by decide +kernel)
  · obtain ⟨_, _, -, -, hfails⟩ := hcut.bind fun entries => pure
      ((entries.filter isNote).map VaultEntry.path |>.mergeSort Text.le)
    exact ⟨_, hfails⟩

end NoteTemplate
