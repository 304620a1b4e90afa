import NoteTemplate.Proofs.Disk.NewFolder
import NoteTemplate.Proofs.Vault.Names
import NoteTemplate.Proofs.Vault.Storage

/-!
# What creating a note does

A created note is one new file in a folder of the disk.  The folder is made when it was
missing; nothing is done to one that was there.
-/

namespace NoteTemplate.Vault

open NoteTemplate.Action

variable {vault : Vault} {path folder wanted filename title content : Text}
  {before middle after : Session} {place : List Text} {note : CreatedNote}

theorem gives_create_iff {done : Unit} :
    (vault.create path content).Gives before done after ↔
      vault.Admits before.here path ∧ before.tree.takesText content = true ∧ ∃ spot,
        before.tree.locate before.here (vault.diskPath path) = .ok (.vacant spot) ∧
          after = { before with tree := before.tree.set spot (.file (.text content)) } := by
  rw [create]
  simp only [gives_bind_iff, gives_toDisk_iff, gives_createFile_iff]
  constructor
  · rintro ⟨_, _, ⟨hadmits, rfl, rfl⟩, -, hcreated⟩
    exact ⟨hadmits, hcreated⟩
  · rintro ⟨hadmits, hcreated⟩
    exact ⟨_, _, ⟨hadmits, rfl, rfl⟩, hadmits.noNull, hcreated⟩

/-- What was created can be found. -/
theorem nodeIn_of_create {done : Unit} (h : (vault.create path content).Gives before done after) :
    vault.nodeIn after path = some (.file (.text content)) := by
  obtain ⟨hadmits, -, spot, hspot, rfl⟩ := gives_create_iff.1 h
  obtain ⟨htakes, hvacant⟩ := DiskTree.locate_eq_ok_iff.1 hspot
  have hfound := (DiskTree.locateFrom_set_of_vacant hvacant (.file (.text content))).2
  have hlocate : (before.tree.set spot (.file (.text content))).locate before.here
      (vault.diskPath path) = .ok (.found spot (.file (.text content))) :=
    DiskTree.locate_eq_ok_iff.2 ⟨htakes, hfound⟩
  rw [nodeIn, DiskTree.node?_eq, if_neg (by simp [hadmits.noNull]), hlocate]
  rfl

/-! ### The folder of the note -/

/-- Folders are made only where the one that is asked for is missing. -/
theorem of_gives_ensureFolder {done : Unit}
    (h : (vault.ensureFolder folder).Gives before done after) :
    after = before ∨ ¬ vault.HasFolderAt before folder ∧
      (makeFolders (vault.diskPath folder)).Gives before done after := by
  rw [ensureFolder] at h
  split at h
  · exact Or.inl (gives_pure_iff.1 h).2
  · obtain ⟨found, _, hcontains, hrest⟩ := gives_bind_iff.1 h
    obtain ⟨hreaches, rfl, rfl⟩ := gives_contains_iff.1 hcontains
    split at hrest
    · next hmissing =>
      obtain ⟨_, _, htarget, hmade⟩ := gives_bind_iff.1 hrest
      obtain ⟨-, rfl, rfl⟩ := gives_toDisk_iff.1 htarget
      refine Or.inr ⟨?_, hmade⟩
      intro hfolder
      rw [(hasFolderAt_iff hreaches.admits).1 hfolder] at hmissing
      cases hmissing
    · obtain ⟨_, _, hfolder, hdone⟩ := gives_bind_iff.1 hrest
      obtain ⟨-, -, rfl⟩ := gives_hasFolder_iff.1 hfolder
      split at hdone
      · exact absurd hdone gives_throw_iff
      · exact Or.inl (gives_pure_iff.1 hdone).2

theorem here_ensureFolder {done : Unit} (h : (vault.ensureFolder folder).Gives before done after) :
    after.here = before.here := by
  cases of_gives_ensureFolder h with
  | inl hsame => rw [hsame]
  | inr hmade => exact keepsHere_makeFoldersFrom _ _ hmade.2

/-- Nothing is done to a folder that is there. -/
theorem ensureFolder_of_hasFolderAt {done : Unit} (hfolder : vault.HasFolderAt before folder)
    (h : (vault.ensureFolder folder).Gives before done after) : after = before :=
  (of_gives_ensureFolder h).resolve_right fun hmade => hmade.1 hfolder

/-- The path leads to a folder, and on from there without double dots. -/
def LeadsOn (vault : Vault) (session : Session) (path : Text) : Prop :=
  ∃ front names place, (vault.diskPath path).parts = front ++ names ∧ ['.', '.'] ∉ names ∧
    session.tree.locate session.here ⟨vault.root.root, front⟩ = .ok (.found place .folder)

/-- The folder is there, or what is missing of the way to it has no double dots. -/
def HasWay (vault : Vault) (session : Session) (folder : Text) : Prop :=
  vault.HasFolderAt session folder ∨ session.tree.IsGrounded ∧ vault.LeadsOn session folder

/-- A folder that has only just been made is empty, when the way to it has no double dots:
where something stood in it, it would have been there. -/
theorem children_eq_nil_of_makeFolders {done : Unit} (hgrounded : before.tree.IsGrounded)
    (hway : vault.LeadsOn before folder) (hmissing : ¬ vault.HasFolderAt before folder)
    (hmade : (makeFolders (vault.diskPath folder)).Gives before done after)
    (hplace : after.tree.locate after.here (vault.diskPath folder) = .ok (.found place .folder)) :
    before.tree.StaysIn after.tree ∧ after.tree.children place = [] := by
  obtain ⟨front, names, start, hparts, hdots, hstart⟩ := hway
  have hnames : (vault.diskPath folder).parts.reverse = names.reverse ++ front.reverse := by
    rw [hparts, List.reverse_append]
  have hdotsReverse : ['.', '.'] ∉ names.reverse := by rwa [List.mem_reverse]
  rw [makeFolders, hnames] at hmade
  have hgrown := growsAlong_makeFoldersFrom hstart hdotsReverse hmade
  rw [List.reverse_reverse] at hgrown
  have hpath : vault.diskPath folder = ⟨vault.root.root, front ++ names⟩ := by
    rw [← hparts]
    rfl
  have hstartAfter :=
    locate_of_staysIn hgrown.stays (keepsHere_makeFoldersFrom _ _ hmade) hstart
  rw [hpath] at hplace
  obtain rfl : place = start ++ names :=
    DiskTree.place_of_locateFrom hdots (DiskTree.locateFrom_of_locate_append hstartAfter hplace)
  refine ⟨hgrown.stays, DiskTree.children_eq_nil_of_vacant fun name => ?_⟩
  rw [hgrown.get?_behind name, Option.eq_none_iff_forall_ne_some]
  intro node hnode
  apply hmissing
  have hfolder := hgrounded.get?_folder hnode
  rw [HasFolderAt, hpath]
  have htakes := (DiskTree.locate_eq_ok_iff.1 hplace).1
  rw [hgrown.stays.takesPath_eq] at htakes
  exact ⟨_, (DiskTree.locate_append hstart htakes).trans (hgrounded.locateFrom hdots hfolder)⟩

/-- Making sure of a folder changes nothing about what it holds. -/
theorem entriesIn_ensureFolder {done : Unit} (hway : vault.HasWay before folder)
    (h : (vault.ensureFolder folder).Gives before done after)
    (hthere : vault.HasFolderAt after folder) :
    before.tree.StaysIn after.tree ∧
      vault.entriesIn after folder = vault.entriesIn before folder := by
  cases of_gives_ensureFolder h with
  | inl hsame =>
    rw [hsame]
    exact ⟨.refl _, rfl⟩
  | inr hmade =>
    obtain ⟨hmissing, hmade⟩ := hmade
    obtain ⟨hgrounded, hleads⟩ := hway.resolve_left hmissing
    obtain ⟨place, hplace⟩ := hthere
    obtain ⟨hstays, hempty⟩ :=
      children_eq_nil_of_makeFolders hgrounded hleads hmissing hmade hplace
    refine ⟨hstays, ?_⟩
    rw [entriesIn_of_located hplace, entriesIn_of_not_hasFolderAt hmissing, listing,
      shownChildren, hempty]
    rfl

/-! ### The name of the note -/

theorem gives_freeNumberedName {left number : Nat}
    (h : (vault.freeNumberedName folder wanted left number).Gives before filename after) :
    after = before ∧ ∃ found, filename = wanted ++ ' ' :: decimal found := by
  induction left generalizing number with
  | zero => exact absurd h gives_throw_iff
  | succ left ih =>
    rw [freeNumberedName] at h
    obtain ⟨_, _, hcontains, hrest⟩ := gives_bind_iff.1 h
    obtain ⟨-, -, rfl⟩ := gives_contains_iff.1 hcontains
    split at hrest
    · exact ih hrest
    · obtain ⟨rfl, rfl⟩ := gives_pure_iff.1 hrest
      exact ⟨rfl, number, rfl⟩

theorem gives_freeName (h : (vault.freeName folder wanted).Gives before filename after)
    (hwanted : IsNoteName wanted) :
    after = before ∧ IsNoteName filename ∧
      (vault.nodeIn before (notePath folder wanted) = none → filename = wanted) := by
  rw [freeName] at h
  obtain ⟨_, _, hcontains, hrest⟩ := gives_bind_iff.1 h
  obtain ⟨-, rfl, rfl⟩ := gives_contains_iff.1 hcontains
  split at hrest
  · next htaken =>
    obtain ⟨rfl, number, rfl⟩ := gives_freeNumberedName hrest
    refine ⟨rfl, hwanted.append_number number, ?_⟩
    intro hfree
    rw [hfree] at htaken
    cases htaken
  · obtain ⟨rfl, rfl⟩ := gives_pure_iff.1 hrest
    exact ⟨rfl, hwanted, fun _ => rfl⟩

theorem ne_doubleDot_of_note (filename : Text) : filename ++ '.' :: noteExtension ≠ ['.', '.'] := by
  intro heq
  have hlast := congrArg List.getLast? heq
  simp [noteExtension] at hlast

theorem parts_notePath (hname : IsNoteName filename) :
    (vault.diskPath (notePath folder filename)).parts =
      (vault.diskPath folder).parts ++ [filename ++ '.' :: noteExtension] := by
  simp only [diskPath, DiskPath.append, vaultParts_notePath hname, List.append_assoc]

theorem diskPath_notePath (hname : IsNoteName filename) :
    vault.diskPath (notePath folder filename) =
      ⟨vault.root.root, (vault.diskPath folder).parts ++ [filename ++ '.' :: noteExtension]⟩ := by
  rw [← parts_notePath hname]
  rfl

theorem nodeIn_notePath_of_vacant (hname : IsNoteName filename)
    (hplace : before.tree.locate before.here (vault.diskPath folder) = .ok (.found place .folder))
    (hvacant : before.tree.get? (place ++ [filename ++ '.' :: noteExtension]) = none) :
    vault.nodeIn before (notePath folder filename) = none := by
  have hlocate : before.tree.locateFrom ((vault.diskPath (notePath folder filename)).origin
      before.here) .folder (vault.diskPath (notePath folder filename)).parts =
      before.tree.locateFrom place .folder [filename ++ '.' :: noteExtension] := by
    rw [parts_notePath hname]
    exact DiskTree.locateFrom_append _ (DiskTree.locateFrom_of_locate hplace)
  rw [nodeIn, DiskTree.node?_eq, DiskTree.locate, hlocate, DiskTree.locateFrom_cons,
    DiskTree.follow_of_ne (ne_doubleDot_of_note filename), hvacant]
  split
  · rfl
  · split
    · exact DiskTree.nodeAt_missing
    · rfl

/-! ### The note in its folder -/

/-- The note is put into a folder at a place of the disk. -/
structure AddsNote (vault : Vault) (folder content : Text) (place : List Text)
    (note : CreatedNote) (before after : Session) : Prop where
  isNoteName : IsNoteName note.filename
  path_eq : note.path = notePath folder note.filename
  located : before.tree.locate before.here (vault.diskPath folder) = .ok (.found place .folder)
  takes : before.tree.takesPath
    ((vault.diskPath folder).append [note.filename ++ '.' :: noteExtension]) = true
  vacant : before.tree.get? (place ++ [note.filename ++ '.' :: noteExtension]) = none
  tree_eq : after.tree = before.tree.set (place ++ [note.filename ++ '.' :: noteExtension])
    (.file (.text content))
  here_eq : after.here = before.here

theorem addsNote_of_create {done : Unit} {resolved : Bool} (hname : IsNoteName filename)
    (h : (vault.create (notePath folder filename) content).Gives before done after) :
    ∃ place, vault.AddsNote folder content place ⟨notePath folder filename, filename, resolved⟩
      before after := by
  obtain ⟨-, -, spot, hlocate, rfl⟩ := gives_create_iff.1 h
  have horigin : (vault.diskPath (notePath folder filename)).origin before.here =
      (vault.diskPath folder).origin before.here := rfl
  obtain ⟨htakes, hspot⟩ := DiskTree.locate_eq_ok_iff.1 hlocate
  rw [diskPath_notePath hname] at htakes
  have htakesFolder : before.tree.takesPath (vault.diskPath folder) = true :=
    DiskTree.takesPath_of_append htakes
  rw [parts_notePath hname, horigin] at hspot
  obtain ⟨place, hplace, hfollow, hvacant⟩ := DiskTree.exists_folder_of_vacant hspot
  rw [DiskTree.follow_of_ne (ne_doubleDot_of_note filename)] at hfollow
  subst hfollow
  exact ⟨place, hname, rfl, DiskTree.locate_eq_ok_iff.2 ⟨htakesFolder, hplace⟩, htakes, hvacant,
    rfl, rfl⟩

/-- Creating a note makes its folder when it is missing, and puts the note into it.  The note
gets the name of its title when this is free. -/
theorem exists_ensureFolder_of_createNote
    (h : (vault.createNote folder title content).Gives before note after) :
    ∃ middle place, (vault.ensureFolder folder).Gives before ⟨⟩ middle ∧
      vault.AddsNote folder content place note middle after ∧
      (cleanFilename title ≠ [] →
        middle.tree.get? (place ++ [cleanFilename title ++ '.' :: noteExtension]) = none →
          note.filename = cleanFilename title ∧ note.conflictResolved = false) := by
  rw [createNote] at h
  obtain ⟨_, middle, hfolder, hrest⟩ := gives_bind_iff.1 h
  obtain ⟨filename, _, hfree, hcreate⟩ := gives_bind_iff.1 hrest
  have hwanted : IsNoteName (if (cleanFilename title).isEmpty then untitled
      else cleanFilename title) := by
    split
    · exact isNoteName_untitled
    · next hne => exact isNoteName_cleanFilename (by simpa using hne)
  obtain ⟨rfl, hname, hkept⟩ := gives_freeName hfree hwanted
  obtain ⟨_, _, hcreated, hdone⟩ := gives_bind_iff.1 hcreate
  obtain ⟨rfl, rfl⟩ := gives_pure_iff.1 hdone
  obtain ⟨place, hadds⟩ := addsNote_of_create hname hcreated
  refine ⟨_, place, hfolder, hadds, ?_⟩
  intro hne hvacant
  rw [if_neg (by simpa using hne)] at hkept ⊢
  have hfilename := hkept (nodeIn_notePath_of_vacant (isNoteName_cleanFilename hne) hadds.located
    hvacant)
  exact ⟨hfilename, decide_eq_false (not_not.2 hfilename)⟩

theorem exists_addsNote_of_createNote
    (h : (vault.createNote folder title content).Gives before note after) :
    ∃ middle place, middle.here = before.here ∧
      (vault.HasFolderAt before folder → middle = before) ∧
      vault.AddsNote folder content place note middle after := by
  obtain ⟨middle, place, hfolder, hadds, -⟩ := exists_ensureFolder_of_createNote h
  exact ⟨middle, place, here_ensureFolder hfolder,
    fun hthere => ensureFolder_of_hasFolderAt hthere hfolder, hadds⟩

namespace AddsNote

theorem staysIn (h : vault.AddsNote folder content place note before after) :
    before.tree.StaysIn after.tree := by
  rw [h.tree_eq]
  exact DiskTree.staysIn_set h.vacant _

theorem located_after (h : vault.AddsNote folder content place note before after) :
    after.tree.locate after.here (vault.diskPath folder) = .ok (.found place .folder) :=
  locate_of_staysIn h.staysIn h.here_eq h.located

/-- The note is one child more of its folder. -/
theorem mem_shownChildren_iff (h : vault.AddsNote folder content place note before after)
    {child : Text × DiskNode} :
    child ∈ shownChildren after.tree place ↔ child ∈ shownChildren before.tree place ∨
      child = (note.filename ++ '.' :: noteExtension, .file (.text content)) := by
  have hshown : isHidden (note.filename ++ '.' :: noteExtension) = false :=
    h.isNoteName.not_isHidden
  rw [shownChildren, shownChildren, List.mem_filter, List.mem_filter, h.tree_eq,
    DiskTree.mem_children_set h.vacant]
  constructor
  · rintro ⟨hmem | rfl, hname⟩
    · exact Or.inl ⟨hmem, hname⟩
    · exact Or.inr rfl
  · rintro (⟨hmem, hname⟩ | rfl)
    · exact ⟨Or.inl hmem, hname⟩
    · exact ⟨Or.inr rfl, by rw [hshown]; rfl⟩

/-- The note is one entry more in its folder. -/
theorem mem_entriesIn_iff (h : vault.AddsNote folder content place note before after)
    {entry : VaultEntry} :
    entry ∈ vault.entriesIn after folder ↔
      entry ∈ vault.entriesIn before folder ∨ entry = ⟨note.path, false⟩ := by
  have hnew : joinPath folder (note.filename ++ '.' :: noteExtension) = note.path :=
    h.path_eq.symm
  rw [entriesIn_of_located h.located, entriesIn_of_located h.located_after, listing, listing]
  simp only [List.mem_map, h.mem_shownChildren_iff]
  constructor
  · rintro ⟨child, hmem | rfl, rfl⟩
    · exact Or.inl ⟨child, hmem, rfl⟩
    · exact Or.inr (by rw [hnew]; rfl)
  · rintro (⟨child, hmem, rfl⟩ | rfl)
    · exact ⟨child, Or.inl hmem, rfl⟩
    · exact ⟨_, Or.inr rfl, by rw [hnew]; rfl⟩

/-- A folder that can be listed can be listed with the note. -/
theorem looksInto_after (h : vault.AddsNote folder content place note before after)
    (hlooks : vault.LooksInto before folder) : vault.LooksInto after folder := by
  rw [looksInto_of_located h.located] at hlooks
  rw [looksInto_of_located h.located_after]
  intro child hchild
  rw [h.staysIn.takesPath_eq]
  rcases h.mem_shownChildren_iff.1 hchild with hmem | rfl
  · exact hlooks child hmem
  · exact h.takes

end AddsNote

end NoteTemplate.Vault
