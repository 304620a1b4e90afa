import NoteTemplate.Proofs.Creation.Advance
import NoteTemplate.Proofs.Disk.FolderWalk
import NoteTemplate.Proofs.Disk.Leaving
import NoteTemplate.Proofs.Vault.OneNote

/-!
# What is outside the vault

A path of the vault is checked by name: it may leave the vault and come back.  A note that is
created or rewritten is where its name says, so nothing outside is touched.  Folders are made
on the way, though, and the way is the one that is written.  So nothing that stands outside the
vault is ever changed, but where a way comes to a vacant place outside, a folder is made there
(`run_changes_outside_iff`).
-/

namespace NoteTemplate

namespace Vault

open NoteTemplate.Action

variable {vault : Vault} {path folder title content : Text} {session : Session}
  {spot : List Text} {node : DiskNode}

/-- The place of the vault. -/
def rootPlace (vault : Vault) (session : Session) : List Text := vault.root.resolve session.here

theorem steady_toDisk (path : Text) : (vault.toDisk path).Steady := by
  refine (steady_checkPath _).bind fun _ => Steady.bind (fun _ => rfl) fun _ => ?_
  dsimp only
  split
  · exact steady_pure _
  · exact steady_throw _

theorem steady_contains (path : Text) : (vault.contains path).Steady :=
  (steady_toDisk path).bind fun _ => (steady_node? _).bind fun _ => steady_pure _

theorem steady_freeNumberedName (folder wanted : Text) (left number : Nat) :
    (vault.freeNumberedName folder wanted left number).Steady := by
  induction left generalizing number with
  | zero => exact steady_throw _
  | succ left ih =>
    refine (steady_contains _).bind fun taken => ?_
    split
    · exact ih _
    · exact steady_pure _

theorem steady_freeName (folder wanted : Text) : (vault.freeName folder wanted).Steady := by
  refine (steady_contains _).bind fun taken => ?_
  split
  · exact steady_freeNumberedName _ _ _ _
  · exact steady_pure _

/-- A file at a path that is not refused is inside the vault. -/
theorem staysInside_of_putsFile {left : Session} (hadmits : vault.Admits session.here path)
    (h : session.PutsFile (vault.diskPath path) content left) :
    session.StaysInside (vault.rootPlace session) left := by
  rcases h with rfl | ⟨location, hlocate, hopen, rfl⟩
  · exact .refl _ _
  · refine .set ?_ hopen _
    rw [DiskTree.place_eq_follow (DiskTree.locateFrom_of_locate hlocate)]
    exact List.isPrefixOf_iff_prefix.1 hadmits.inside

/-- The path does not lead out of the vault, and it is not too long to be followed. -/
structure Enters (vault : Vault) (session : Session) (path : Text) : Prop where
  admits : vault.Admits session.here path
  takes : session.tree.takesPath (vault.diskPath path) = true

/-- What is done at a path is done where the path leads, or the path is refused. -/
theorem leaves_toDisk_bind {α : Type} (vault : Vault) (path : Text) (next : DiskPath → Action α)
    (session : Session) :
    (vault.Admits session.here path ∧ (vault.toDisk path >>= next).leaves session =
      (next (vault.diskPath path)).leaves session) ∨
    (vault.toDisk path >>= next).leaves session = session := by
  rcases (steady_toDisk path).bind_cases next session with ⟨target, htarget, heq⟩ | heq
  · obtain ⟨hadmits, rfl, -⟩ := gives_toDisk_iff.1 htarget
    exact Or.inl ⟨hadmits, heq⟩
  · exact Or.inr heq

theorem staysInside_create (path content : Text) (session : Session) :
    session.StaysInside (vault.rootPlace session) ((vault.create path content).leaves session) := by
  rw [create]
  rcases vault.leaves_toDisk_bind path _ session with ⟨hadmits, heq⟩ | heq
  · rw [heq]
    exact staysInside_of_putsFile hadmits (putsFile_createFile _ _ _)
  · rw [heq]
    exact .refl _ _

theorem staysInside_modify (path content : Text) (session : Session) :
    session.StaysInside (vault.rootPlace session) ((vault.modify path content).leaves session) := by
  rw [modify]
  rcases vault.leaves_toDisk_bind path _ session with ⟨hadmits, heq⟩ | heq
  · rw [heq]
    rcases (steady_node? (vault.diskPath path)).bind_cases _ session with ⟨found, -, heq⟩ | heq
    · rw [heq]
      split
      · exact staysInside_of_putsFile hadmits (putsFile_writeFile _ _ _)
      · exact .refl _ _
    · rw [heq]
      exact .refl _ _
  · rw [heq]
    exact .refl _ _

/-! ### Folders -/

/-- A vault that is there is at its place. -/
theorem located_root (hvault : vault.HasFolderAt session vaultRoot) :
    session.tree.locate session.here vault.root =
      .ok (.found (vault.rootPlace session) .folder) := by
  obtain ⟨place, hplace⟩ := hvault
  have hroot : vault.diskPath vaultRoot = vault.root := by
    have hnil : vaultParts vaultRoot = [] := by decide
    rw [diskPath, hnil, DiskPath.append, List.append_nil]
  rw [hroot] at hplace
  obtain rfl : place = vault.rootPlace session :=
    DiskTree.place_eq_follow (DiskTree.locateFrom_of_locate hplace)
  exact hplace

theorem hasFolderAt_of_staysInside {left : Session} {root : List Text}
    (hvault : vault.HasFolderAt session vaultRoot) (h : session.StaysInside root left) :
    vault.HasFolderAt left vaultRoot := by
  obtain ⟨place, hplace⟩ := hvault
  obtain ⟨htakes, hfound⟩ := DiskTree.locate_eq_ok_iff.1 hplace
  rw [DiskTree.takesPath, ← h.system_eq] at htakes
  refine ⟨place, DiskTree.locate_eq_ok_iff.2 ⟨htakes, ?_⟩⟩
  rw [h.here_eq]
  exact DiskTree.locateFrom_of_keepsFolders h.folders hfound

/-- The session with the folders made that a path of the vault needs. -/
def madeWay (vault : Vault) (session : Session) (folder : Text) : Session :=
  { session with
    tree := (session.tree.walk (vault.rootPlace session) (vaultParts folder)).1 }

theorem leaves_createFolder (hvault : vault.HasFolderAt session vaultRoot)
    (henters : vault.Enters session folder) :
    (vault.createFolder folder).leaves session = vault.madeWay session folder := by
  rw [createFolder, henters.admits.gives_toDisk.leaves_bind, madeWay]
  rcases makeFolders_walks (located_root hvault) henters.admits.noNull henters.takes with
    ⟨made, stop, hwalk, hgives⟩ | ⟨made, failure, hwalk, hfails⟩
  · rw [hwalk]
    exact hgives.leaves_eq
  · rw [hwalk]
    exact hfails.leaves_eq

/-- No folder is made where the path is too long. -/
theorem leaves_makeFolders_of_not_takesPath {target : DiskPath} (hnull : target.hasNull = false)
    (htakes : session.tree.takesPath target = false) :
    (makeFolders target).leaves session = session := by
  have hlocate : session.tree.locate session.here target = .error .nameTooLong :=
    DiskTree.locate_of_not_takesPath htakes
  have hfirst : (makeFolder target).Gives session (some .nameTooLong) session :=
    gives_makeFolder_iff.2 ⟨hnull, by rw [hlocate]; exact ⟨rfl, rfl⟩⟩
  rw [makeFolders]
  cases hparts : target.parts.reverse with
  | nil => rfl
  | cons name names =>
    have htarget : (⟨target.root, (name :: names).reverse⟩ : DiskPath) = target := by
      rw [← hparts, List.reverse_reverse]
    rw [makeFoldersFrom, htarget]
    exact (hfirst.bind_fails (fails_acceptFolder_of_error hnull hlocate)).leaves_eq

/-- A folder is not made where its path cannot be followed. -/
theorem leaves_createFolder_of_not_enters (h : ¬vault.Enters session folder) :
    (vault.createFolder folder).leaves session = session := by
  rw [createFolder]
  rcases vault.leaves_toDisk_bind folder makeFolders session with ⟨hadmits, heq⟩ | heq
  · rw [heq]
    have htakes : session.tree.takesPath (vault.diskPath folder) = false :=
      Bool.eq_false_iff.2 fun htakes => h ⟨hadmits, htakes⟩
    exact leaves_makeFolders_of_not_takesPath hadmits.noNull htakes
  · exact heq

/-- Making sure of a folder makes its way too, if that is not there. -/
theorem leaves_ensureFolder (hvault : vault.HasFolderAt session vaultRoot)
    (henters : vault.Enters session folder) :
    (vault.ensureFolder folder).leaves session = vault.madeWay session folder := by
  have hlocate : session.tree.locate session.here (vault.diskPath folder) =
      session.tree.locateFrom (vault.rootPlace session) .folder (vaultParts folder) :=
    DiskTree.locate_append (located_root hvault) henters.takes
  have hmade : vault.madeWay session folder = { session with
      tree := (session.tree.walk (vault.rootPlace session) (vaultParts folder)).1 } := rfl
  rw [ensureFolder]
  split
  · next hroot =>
    rw [madeWay, isRootPath_iff.1 hroot]
    rfl
  · by_cases htooLong : session.tree.IsTooLong session.here (vault.diskPath folder)
    · have hstopped := htooLong.2
      rw [hlocate] at hstopped
      rw [hmade, DiskTree.walk_of_isStopped (Or.inr ⟨_, by simp, hstopped⟩)]
      rcases (steady_contains folder).bind_cases _ session with ⟨found, hfound, -⟩ | heq
      · exact absurd htooLong (gives_contains_iff.1 hfound).1.notTooLong
      · exact heq
    · have hreaches : vault.Reaches session folder := ⟨henters.admits, htooLong⟩
      have hfolder := hreaches.gives_hasFolder
      rw [hreaches.gives_contains.leaves_bind]
      cases hnode : vault.nodeIn session folder with
      | none => exact leaves_createFolder hvault henters
      | some node =>
        obtain ⟨spot, hspot⟩ := exists_located_of_nodeIn vault hnode
        rw [hnode] at hfolder
        rw [hlocate] at hspot
        rw [Option.isSome_some, Bool.not_true, if_neg Bool.false_ne_true, hfolder.leaves_bind,
          hmade]
        cases node with
        | folder =>
          rw [DiskTree.walk_of_found hspot]
          rfl
        | file file =>
          rw [DiskTree.walk_of_isStopped (Or.inl ⟨spot, file, hspot⟩)]
          rfl

theorem leaves_ensureFolder_of_not_enters (h : ¬vault.Enters session folder) :
    (vault.ensureFolder folder).leaves session = session := by
  rw [ensureFolder]
  split
  · rfl
  · have hsteady : (vault.contains folder).Steady := steady_contains folder
    rcases hsteady.bind_cases _ session with ⟨found, hfound, -⟩ | heq
    · have hreaches := (gives_contains_iff.1 hfound).1
      have htakes := DiskTree.takesPath_of_not_isTooLong hreaches.admits.noNull hreaches.notTooLong
      exact absurd ⟨hreaches.admits, htakes⟩ h
    · exact heq

/-! ### Operations -/

/-- What changes the notes of a vault. -/
inductive Operation where
  | create (path content : Text)
  | modify (path content : Text)
  | createFolder (path : Text)
  | createNote (folder title content : Text)
deriving DecidableEq, Repr

/-- Do an operation; what it gives does not matter here. -/
def perform (vault : Vault) : Operation → Action Unit
  | .create path content => vault.create path content
  | .modify path content => vault.modify path content
  | .createFolder path => vault.createFolder path
  | .createNote folder title content => do
    let _ ← vault.createNote folder title content
    return ()

/-- The session after a run of operations.  One that fails ends only itself, and what it has
changed before stays changed. -/
def run (vault : Vault) (session : Session) : List Operation → Session
  | [] => session
  | operation :: more => vault.run ((vault.perform operation).leaves session) more

/-- The folder that an operation makes if it is missing. -/
def Operation.folder? : Operation → Option Text
  | .createFolder path => some path
  | .createNote folder _ _ => some folder
  | .create _ _ | .modify _ _ => none

/-- The operation makes a folder, and its way comes to the place. -/
def PassesBy (vault : Vault) (session : Session) (operation : Operation) (spot : List Text) :
    Prop :=
  ∃ folder, operation.folder? = some folder ∧ vault.Enters session folder ∧
    session.tree.Meets (vault.rootPlace session) (vaultParts folder) spot

/-- The session with the folders made that an operation needs. -/
inductive MakesWay (vault : Vault) (session : Session) (operation : Operation) : Session → Prop
    where
  | folder {folder : Text} (hfolder : operation.folder? = some folder)
      (henters : vault.Enters session folder) :
      MakesWay vault session operation (vault.madeWay session folder)
  | nothing (h : ∀ folder, operation.folder? = some folder → ¬vault.Enters session folder) :
      MakesWay vault session operation session

/-- Behind the folder of a note, all is done inside the vault. -/
theorem staysInside_createNote (folder title content : Text) (session : Session) :
    ((vault.ensureFolder folder).leaves session).StaysInside
      (vault.rootPlace ((vault.ensureFolder folder).leaves session))
      ((vault.createNote folder title content).leaves session) := by
  rw [createNote]
  rcases leaves_bind_cases (vault.ensureFolder folder) _ session with ⟨_, -, heq⟩ | heq
  · rw [heq]
    generalize (vault.ensureFolder folder).leaves session = middle
    rcases (steady_freeName folder _).bind_cases _ middle with ⟨name, -, heq⟩ | heq
    · rw [heq]
      rcases leaves_bind_cases (vault.create (notePath folder name) content) _ middle with
        ⟨_, -, heq⟩ | heq
      · rw [heq]
        exact staysInside_create _ _ _
      · rw [heq]
        exact staysInside_create _ _ _
    · rw [heq]
      exact .refl _ _
  · rw [heq]
    exact .refl _ _

/-- An operation makes the way to its folder, and stays inside the vault otherwise. -/
theorem exists_makesWay (hvault : vault.HasFolderAt session vaultRoot) (operation : Operation) :
    ∃ middle, vault.MakesWay session operation middle ∧
      middle.StaysInside (vault.rootPlace session) ((vault.perform operation).leaves session) := by
  cases operation with
  | create path content => exact ⟨session, .nothing nofun, staysInside_create _ _ _⟩
  | modify path content => exact ⟨session, .nothing nofun, staysInside_modify _ _ _⟩
  | createFolder path =>
    by_cases henters : vault.Enters session path
    · refine ⟨_, .folder rfl henters, ?_⟩
      rw [perform, leaves_createFolder hvault henters]
      exact .refl _ _
    · refine ⟨session, .nothing fun folder hfolder => Option.some.inj hfolder ▸ henters, ?_⟩
      rw [perform, leaves_createFolder_of_not_enters henters]
      exact .refl _ _
  | createNote folder title content =>
    have hnote : (vault.perform (.createNote folder title content)).leaves session =
        (vault.createNote folder title content).leaves session := by
      rcases leaves_bind_cases (vault.createNote folder title content) (fun _ => pure ())
        session with ⟨_, -, heq⟩ | heq <;> exact heq
    have hstays := vault.staysInside_createNote folder title content session
    rw [hnote]
    by_cases henters : vault.Enters session folder
    · rw [leaves_ensureFolder hvault henters] at hstays
      exact ⟨_, .folder rfl henters, hstays⟩
    · rw [leaves_ensureFolder_of_not_enters henters] at hstays
      exact ⟨session, .nothing fun _ hfolder => Option.some.inj hfolder ▸ henters, hstays⟩

namespace MakesWay

variable {operation : Operation} {middle : Session}

theorem here_eq (h : vault.MakesWay session operation middle) : middle.here = session.here := by
  cases h <;> rfl

theorem staysIn (h : vault.MakesWay session operation middle) :
    session.tree.StaysIn middle.tree := by
  cases h with
  | folder hfolder henters => exact DiskTree.staysIn_walk _ _ _
  | nothing h => exact .refl _

theorem get?_iff (h : vault.MakesWay session operation middle)
    (hvacant : session.tree.get? spot = none) :
    middle.tree.get? spot = some node ↔
      node = .folder ∧ vault.PassesBy session operation spot := by
  cases h with
  | folder hfolder henters =>
    rw [madeWay, DiskTree.get?_walk_of_vacant hvacant]
    refine and_congr_right fun _ => ⟨fun hmeets => ⟨_, hfolder, henters, hmeets⟩, ?_⟩
    rintro ⟨other, hother, -, hmeets⟩
    obtain rfl := Option.some.inj (hfolder.symm.trans hother)
    exact hmeets
  | nothing h =>
    rw [hvacant]
    refine ⟨nofun, ?_⟩
    rintro ⟨-, folder, hfolder, henters, -⟩
    exact absurd henters (h folder hfolder)

end MakesWay

section

variable (hvault : vault.HasFolderAt session vaultRoot) (operation : Operation)

include hvault

theorem here_perform : ((vault.perform operation).leaves session).here = session.here := by
  obtain ⟨middle, hmakes, hstays⟩ := exists_makesWay hvault operation
  exact hstays.here_eq.trans hmakes.here_eq

theorem hasFolderAt_perform :
    vault.HasFolderAt ((vault.perform operation).leaves session) vaultRoot := by
  obtain ⟨middle, hmakes, hstays⟩ := exists_makesWay hvault operation
  refine hasFolderAt_of_staysInside ?_ hstays
  obtain ⟨place, hplace⟩ := hvault
  exact ⟨place, locate_of_staysIn hmakes.staysIn hmakes.here_eq hplace⟩

/-- One operation: what stands outside stays. -/
theorem get?_perform_of_some (houtside : ¬vault.rootPlace session <+: spot)
    (hnode : session.tree.get? spot = some node) :
    ((vault.perform operation).leaves session).tree.get? spot = some node := by
  obtain ⟨middle, hmakes, hstays⟩ := exists_makesWay hvault operation
  rw [hstays.outside spot houtside, hmakes.staysIn.keeps hnode]

/-- One operation: what is new outside are folders that its way comes to. -/
theorem get?_perform_of_vacant (houtside : ¬vault.rootPlace session <+: spot)
    (hvacant : session.tree.get? spot = none) :
    ((vault.perform operation).leaves session).tree.get? spot = some node ↔
      node = .folder ∧ vault.PassesBy session operation spot := by
  obtain ⟨middle, hmakes, hstays⟩ := exists_makesWay hvault operation
  rw [hstays.outside spot houtside, hmakes.get?_iff hvacant]

end

/-! ### Runs -/

section

variable {operations : List Operation}

theorem rootPlace_perform (hvault : vault.HasFolderAt session vaultRoot) (operation : Operation) :
    vault.rootPlace ((vault.perform operation).leaves session) = vault.rootPlace session := by
  rw [rootPlace, here_perform hvault operation]
  rfl

/-- What stands outside stays, whatever is done. -/
theorem get?_run_of_some (hvault : vault.HasFolderAt session vaultRoot)
    (operations : List Operation) (houtside : ¬vault.rootPlace session <+: spot)
    (hnode : session.tree.get? spot = some node) :
    (vault.run session operations).tree.get? spot = some node := by
  induction operations generalizing session with
  | nil => exact hnode
  | cons operation operations ih =>
    apply ih (hasFolderAt_perform hvault operation)
    · rwa [rootPlace_perform hvault operation]
    · exact get?_perform_of_some hvault operation houtside hnode

/-- At some point of a run, an operation comes to the place on the way to its folder. -/
def RunPassesBy (vault : Vault) (session : Session) (operations : List Operation)
    (spot : List Text) : Prop :=
  ∃ done operation more, operations = done ++ operation :: more ∧
    vault.PassesBy (vault.run session done) operation spot

theorem runPassesBy_cons_iff {operation : Operation} :
    vault.RunPassesBy session (operation :: operations) spot ↔
      vault.PassesBy session operation spot ∨
        vault.RunPassesBy ((vault.perform operation).leaves session) operations spot := by
  constructor
  · rintro ⟨done, other, more, hsplit, hpasses⟩
    rcases List.cons_eq_append_iff.1 hsplit with ⟨rfl, hrest⟩ | ⟨done, rfl, hrest⟩
    · obtain ⟨rfl, rfl⟩ := List.cons.inj hrest
      exact Or.inl hpasses
    · exact Or.inr ⟨done, other, more, hrest, hpasses⟩
  · rintro (hpasses | ⟨done, other, more, rfl, hpasses⟩)
    · exact ⟨[], operation, operations, rfl, hpasses⟩
    · exact ⟨operation :: done, other, more, rfl, hpasses⟩

/-- What is new outside after a run are folders that an operation has come to. -/
theorem get?_run_of_vacant (hvault : vault.HasFolderAt session vaultRoot)
    (operations : List Operation) (houtside : ¬vault.rootPlace session <+: spot)
    (hvacant : session.tree.get? spot = none) :
    (vault.run session operations).tree.get? spot = some node ↔
      node = .folder ∧ vault.RunPassesBy session operations spot := by
  induction operations generalizing session with
  | nil =>
    rw [run, hvacant]
    refine ⟨nofun, ?_⟩
    rintro ⟨-, done, operation, more, hsplit, -⟩
    simp at hsplit
  | cons operation operations ih =>
    have hvaultNext := hasFolderAt_perform hvault operation
    have houtsideNext : ¬vault.rootPlace ((vault.perform operation).leaves session) <+: spot := by
      rwa [rootPlace_perform hvault operation]
    have hstep (found : DiskNode) :
        ((vault.perform operation).leaves session).tree.get? spot = some found ↔
          found = .folder ∧ vault.PassesBy session operation spot :=
      get?_perform_of_vacant hvault operation houtside hvacant
    rw [run, runPassesBy_cons_iff]
    cases hnext : ((vault.perform operation).leaves session).tree.get? spot with
    | none =>
      have hnot : ¬vault.PassesBy session operation spot := fun hpasses => by
        rw [(hstep .folder).2 ⟨rfl, hpasses⟩] at hnext
        cases hnext
      rw [ih hvaultNext houtsideNext hnext]
      simp [hnot]
    | some found =>
      obtain ⟨rfl, hpasses⟩ := (hstep found).1 hnext
      rw [get?_run_of_some hvaultNext operations houtsideNext hnext]
      simp [hpasses, eq_comm]

/-- What a run of operations does outside the vault.  Everything that stands there stays as it
is, and what is new are folders, exactly at the vacant places that some operation comes to on the
way to a folder.  So the outside is changed exactly when there is such a place. -/
theorem run_changes_outside_iff (hvault : vault.HasFolderAt session vaultRoot)
    (operations : List Operation) :
    (∀ spot, ¬vault.rootPlace session <+: spot →
      (∀ node, session.tree.get? spot = some node →
        (vault.run session operations).tree.get? spot = some node) ∧
      (session.tree.get? spot = none → ∀ node,
        (vault.run session operations).tree.get? spot = some node ↔
          node = .folder ∧ vault.RunPassesBy session operations spot)) ∧
    ((∃ spot, ¬vault.rootPlace session <+: spot ∧
        (vault.run session operations).tree.get? spot ≠ session.tree.get? spot) ↔
      ∃ spot, ¬vault.rootPlace session <+: spot ∧ session.tree.get? spot = none ∧
        vault.RunPassesBy session operations spot) := by
  refine ⟨fun spot houtside => ⟨fun node => get?_run_of_some hvault operations houtside,
    fun hvacant node => get?_run_of_vacant hvault operations houtside hvacant⟩, ?_, ?_⟩
  · rintro ⟨spot, houtside, hchanged⟩
    cases hbefore : session.tree.get? spot with
    | some node =>
      rw [get?_run_of_some hvault operations houtside hbefore, hbefore] at hchanged
      exact absurd rfl hchanged
    | none =>
      rw [hbefore] at hchanged
      obtain ⟨node, hnode⟩ := Option.ne_none_iff_exists'.1 hchanged
      exact ⟨spot, houtside, hbefore,
        ((get?_run_of_vacant hvault operations houtside hbefore).1 hnode).2⟩
  · rintro ⟨spot, houtside, hvacant, hpasses⟩
    refine ⟨spot, houtside, ?_⟩
    rw [(get?_run_of_vacant hvault operations houtside hvacant).2 ⟨rfl, hpasses⟩, hvacant]
    simp

end

/-! ### A way that comes back -/

/-- A folder of the diary, by a way that leaves the diary for a folder beside it and comes back. -/
def returningWay : Text := "../out/../vault/May".toList

theorem hasFolderAt_diary : diary.HasFolderAt (diarySession []) vaultRoot :=
  ⟨["vault".toList], by decide⟩

/-- The way comes to the place beside the diary, where nothing is. -/
theorem run_changes_outside_of_returningWay :
    diary.HasFolderAt (diarySession []) vaultRoot ∧
      ∃ spot, ¬diary.rootPlace (diarySession []) <+: spot ∧
        (diary.run (diarySession []) [.createFolder returningWay]).tree.get? spot ≠
          (diarySession []).tree.get? spot := by
  have hup : (diarySession []).tree.get? (DiskPath.follow (diary.rootPlace (diarySession []))
      [['.', '.']]) = some .folder := by decide
  have hmeets : (diarySession []).tree.Meets (diary.rootPlace (diarySession []))
      (vaultParts returningWay) ["out".toList] := by
    have hparts : vaultParts returningWay = [['.', '.'], "out".toList, ['.', '.'],
        "vault".toList, "May".toList] := by decide
    rw [hparts]
    exact .later ⟨by simp [hup], by simp [hup]⟩ (.next [] "out".toList _ (by decide))
  have hpasses : diary.RunPassesBy (diarySession []) [.createFolder returningWay]
      ["out".toList] :=
    ⟨[], _, [], rfl, returningWay, rfl, ⟨⟨by decide, by decide⟩, by decide⟩, hmeets⟩
  exact ⟨hasFolderAt_diary, (run_changes_outside_iff hasFolderAt_diary _).2.2
    ⟨["out".toList], by decide, by decide, hpasses⟩⟩

/-- The folder is made, and another one beside the diary with it; the path is not refused. -/
theorem out_of_returningWay :
    diary.HasFolderAt (diarySession []) vaultRoot ∧
      (diary.createFolder returningWay).Gives (diarySession []) ⟨⟩
        (diary.run (diarySession []) [.createFolder returningWay]) ∧
      ¬∀ spot, ¬diary.rootPlace (diarySession []) <+: spot →
        (diary.run (diarySession []) [.createFolder returningWay]).tree.get? spot =
          (diarySession []).tree.get? spot := by
  have hmade : (diary.run (diarySession []) [.createFolder returningWay]).tree.get?
      ["out".toList] = some .folder := by decide
  have hvacant : (diarySession []).tree.get? ["out".toList] = none := by decide
  refine ⟨hasFolderAt_diary, ?_, fun hkept => ?_⟩
  · unfold Gives
    decide
  · have heq := hkept ["out".toList] (by decide)
    rw [hmade, hvacant] at heq
    cases heq

end Vault

end NoteTemplate
