import NoteTemplate.Proofs.Disk.FolderWalk
import NoteTemplate.Proofs.Vault.NewNote

/-!
# One note, or what is left of it

Creating a note adds one file, together with the folders that it needs, or it fails.  Mostly a
failure changes nothing: the folders are made before the name of the note is looked for, but in
a folder that has only just been made every name is free.  There are three failures that come too
late.  A name in the middle of the way to the folder may be too long, and the folders in front of
it are made by then; the name of the note may be too long, and all folders are made by then; and
the text may have a character that no file holds, and the note is there by then
(`createNote_ends`).
-/

namespace NoteTemplate

/-- The session is one that a program can be in: every entry of the disk stands in a folder, and
the working folder is there. -/
structure Session.IsSound (session : Session) : Prop where
  grounded : session.tree.IsGrounded
  here_stands : session.tree.get? session.here = some .folder

instance (session : Session) : Decidable session.IsSound :=
  decidable_of_iff (session.tree.IsGrounded ∧ session.tree.get? session.here = some .folder)
    ⟨fun h => ⟨h.1, h.2⟩, fun h => ⟨h.grounded, h.here_stands⟩⟩

namespace Session.IsSound

variable {session : Session} {path : DiskPath} {place : List Text} {node : DiskNode}

theorem origin_stands (h : session.IsSound) (path : DiskPath) :
    session.tree.get? (path.origin session.here) = some .folder := by
  rw [DiskPath.origin]
  split
  · rfl
  · exact h.here_stands

theorem get?_of_locate (h : session.IsSound)
    (hplace : session.tree.locate session.here path = .ok (.found place node)) :
    session.tree.get? place = some node :=
  DiskTree.get?_of_locateFrom (h.origin_stands path) (DiskTree.locateFrom_of_locate hplace)

end Session.IsSound

/-! ### Where a path leads by name -/

namespace DiskPath

variable {place front names : List Text}

theorem follow_of_locateFrom {tree : DiskTree} {start : List Text} {node stands : DiskNode}
    (h : tree.locateFrom start node names = .ok (.found place stands)) :
    follow start names = place :=
  (DiskTree.place_eq_follow h).symm

theorem resolve_append (path : DiskPath) (here : List Text) (hdots : ['.', '.'] ∉ names) :
    (path.append names).resolve here = path.resolve here ++ names :=
  (follow_append _ _ _).trans (follow_of_noDots hdots)

end DiskPath

namespace Vault

open NoteTemplate.Action

variable {vault : Vault} {folder wanted name title content : Text} {before after : Session}
  {place : List Text} {note : CreatedNote} {failure : Failure}

/-! ### The names that are tried -/

/-- The names that are tried for a note, in this order. -/
def numberedName (wanted : Text) : Nat → Text
  | 0 => wanted
  | number + 1 => wanted ++ ' ' :: decimal (number + 1)

/-- The name of the note of a title. -/
def noteName (title : Text) : Text := if title.isEmpty then untitled else title

/-- The place of a note in its folder. -/
def notePlace (place : List Text) (name : Text) : List Text :=
  place ++ [name ++ '.' :: noteExtension]

/-- Something stands where a note of this name would be put. -/
def IsTaken (tree : DiskTree) (place : List Text) (name : Text) : Prop :=
  (tree.get? (notePlace place name)).isSome = true

/-- The disk takes a note of this name: neither its name is too long nor its path. -/
def TakesNote (vault : Vault) (tree : DiskTree) (folder : Text) (place : List Text)
    (name : Text) : Prop :=
  tree.takesPath (vault.diskPath (notePath folder name)) = true ∧
    tree.takesPlace (notePlace place name) = true

instance (vault : Vault) (tree : DiskTree) (folder : Text) (place : List Text) (name : Text) :
    Decidable (vault.TakesNote tree folder place name) := by
  unfold TakesNote; infer_instance

theorem null_notMem_cleanFilename (title : Text) : '\x00' ∉ cleanFilename title := by
  intro hmem
  have hclean := (Text.trimWhile_infix _ _).subset hmem
  rcases mem_of_mem_collapseBlanksFrom hclean with hspace | hclean
  · revert hspace
    decide
  · have hcontrol := (isAllowed_of_mem_cleanCharacters hclean).2
    revert hcontrol
    decide

/-- The name of a note that the disk takes. -/
structure IsFileName (name : Text) : Prop where
  isNoteName : IsNoteName name
  noNull : '\x00' ∉ name

theorem isFileName_noteName (title : Text) : IsFileName (noteName (cleanFilename title)) := by
  rw [noteName]
  split
  · exact ⟨isNoteName_untitled, by decide⟩
  · next hne =>
    exact ⟨isNoteName_cleanFilename (by simpa using hne), null_notMem_cleanFilename title⟩

theorem IsFileName.numberedName (h : IsFileName wanted) (number : Nat) :
    IsFileName (numberedName wanted number) := by
  cases number with
  | zero => exact h
  | succ number =>
    refine ⟨h.isNoteName.append_number _, ?_⟩
    rw [Vault.numberedName, List.mem_append, List.mem_cons]
    rintro (hwanted | hspace | hdigit)
    · exact h.noNull hwanted
    · revert hspace
      decide
    · have hdigit := isDigit_of_mem_decimal hdigit
      revert hdigit
      decide

/-! ### A folder of the vault -/

theorem diskPath_append {path : Text} {names : List Text}
    (hparts : vaultParts path = vaultParts folder ++ names) :
    vault.diskPath path = (vault.diskPath folder).append names := by
  rw [diskPath, hparts]
  simp [diskPath, DiskPath.append]

/-- Without double dots a path that goes on from an admitted one stays inside the vault. -/
theorem Admits.of_append {here names : List Text} {path : Text} (h : vault.Admits here folder)
    (hparts : vaultParts path = vaultParts folder ++ names) (hdots : ['.', '.'] ∉ names)
    (hnull : ∀ name ∈ names, '\x00' ∉ name) : vault.Admits here path where
  noNull := by
    have hnames : (names.any fun name => name.contains '\x00') = false := by
      rw [List.any_eq_false]
      intro name hname
      simpa using hnull name hname
    rw [diskPath_append hparts, DiskPath.append, DiskPath.hasNull, List.any_append,
      Bool.or_eq_false_iff]
    exact ⟨h.noNull, hnames⟩
  inside := by
    have hinside := List.isPrefixOf_iff_prefix.1 h.inside
    apply List.isPrefixOf_iff_prefix.2
    rw [diskPath_append hparts, DiskPath.resolve_append _ _ hdots]
    exact hinside.trans (List.prefix_append _ _)

/-- Nothing can be asked about a path that is too long. -/
theorem fails_contains_of_isTooLong {path : Text} (hadmits : vault.Admits before.here path)
    (h : before.tree.IsTooLong before.here (vault.diskPath path)) :
    (vault.contains path).Fails before (.system .nameTooLong (vault.diskPath path).text)
      before :=
  hadmits.gives_toDisk.bind_fails ((fails_node? h).bind _)

/-- The folder stands at the place, inside the vault. -/
structure OpensAt (vault : Vault) (session : Session) (folder : Text) (place : List Text) :
    Prop where
  admits : vault.Admits session.here folder
  located : session.tree.locate session.here (vault.diskPath folder) = .ok (.found place .folder)

namespace OpensAt

theorem admits_notePath (hadmits : vault.Admits before.here folder) (hname : IsFileName name) :
    vault.Admits before.here (notePath folder name) := by
  have hdots : ['.', '.'] ∉ [name ++ '.' :: noteExtension] := by
    rw [List.mem_singleton]
    exact Ne.symm (ne_doubleDot_of_note name)
  refine hadmits.of_append (vaultParts_notePath hname.isNoteName) hdots ?_
  rw [List.forall_mem_singleton, List.mem_append]
  rintro (hmem | hmem)
  · exact hname.noNull hmem
  · revert hmem
    decide

theorem locateFrom_notePath (h : vault.OpensAt before folder place) (hname : IsFileName name) :
    before.tree.locateFrom ((vault.diskPath (notePath folder name)).origin before.here) .folder
        (vault.diskPath (notePath folder name)).parts =
      match before.tree.get? (notePlace place name) with
      | some node => .ok (.found (notePlace place name) node)
      | none => before.tree.missing (notePlace place name) true := by
  have hfollow : before.tree.locateFrom ((vault.diskPath folder).origin before.here) .folder
      ((vault.diskPath folder).parts ++ [name ++ '.' :: noteExtension]) =
        before.tree.locateFrom place .folder [name ++ '.' :: noteExtension] :=
    DiskTree.locateFrom_append _ (DiskTree.locateFrom_of_locate h.located)
  rw [parts_notePath hname.isNoteName]
  refine hfollow.trans ?_
  rw [DiskTree.locateFrom_cons, DiskTree.follow_of_ne (ne_doubleDot_of_note name)]
  rfl

/-- A name that is taken is found, where its path is not too long. -/
theorem gives_contains_of_isTaken (h : vault.OpensAt before folder place)
    (hname : IsFileName name) (htaken : IsTaken before.tree place name)
    (htakes : before.tree.takesPath (vault.diskPath (notePath folder name)) = true) :
    (vault.contains (notePath folder name)).Gives before true before := by
  obtain ⟨node, hnode⟩ := Option.isSome_iff_exists.1 htaken
  have hadmits := admits_notePath h.admits hname
  have hlocate := h.locateFrom_notePath hname
  rw [hnode] at hlocate
  have hfound := DiskTree.locate_eq_ok_iff.2 ⟨htakes, hlocate⟩
  refine gives_contains_iff.2 ⟨hadmits.reaches_of_located hfound, ?_, rfl⟩
  rw [nodeIn, DiskTree.node?_eq, hadmits.noNull, hfound]
  rfl

theorem locate_of_takesNote (h : vault.OpensAt before folder place) (hname : IsFileName name)
    (hfree : ¬IsTaken before.tree place name)
    (htakes : vault.TakesNote before.tree folder place name) :
    before.tree.locate before.here (vault.diskPath (notePath folder name)) =
      .ok (.vacant (notePlace place name)) := by
  rw [DiskTree.locate_of_takesPath htakes.1, h.locateFrom_notePath hname,
    Option.not_isSome_iff_eq_none.1 hfree]
  exact DiskTree.missing_eq_vacant_iff.2 ⟨htakes.2, rfl, rfl⟩

theorem gives_contains_of_takesNote (h : vault.OpensAt before folder place)
    (hname : IsFileName name) (hfree : ¬IsTaken before.tree place name)
    (htakes : vault.TakesNote before.tree folder place name) :
    (vault.contains (notePath folder name)).Gives before false before := by
  have hadmits := admits_notePath h.admits hname
  have hvacant := h.locate_of_takesNote hname hfree htakes
  refine gives_contains_iff.2 ⟨hadmits.reaches_of_located hvacant, ?_, rfl⟩
  rw [nodeIn, DiskTree.node?_eq, hadmits.noNull, hvacant]
  rfl

/-- Nothing can be asked about a note whose path is too long, or about a new one whose name is. -/
theorem fails_contains_of_not_takesNote (h : vault.OpensAt before folder place)
    (hname : IsFileName name)
    (hfree : before.tree.takesPath (vault.diskPath (notePath folder name)) = true →
      ¬IsTaken before.tree place name)
    (htakes : ¬vault.TakesNote before.tree folder place name) :
    (vault.contains (notePath folder name)).Fails before
      (.system .nameTooLong (vault.diskPath (notePath folder name)).text) before := by
  have hadmits := admits_notePath h.admits hname
  have hlocate : before.tree.locate before.here (vault.diskPath (notePath folder name)) =
      .error .nameTooLong := by
    cases hpath : before.tree.takesPath (vault.diskPath (notePath folder name)) with
    | true =>
      have hplace : before.tree.takesPlace (notePlace place name) = false :=
        Bool.eq_false_iff.2 fun hplace => htakes ⟨hpath, hplace⟩
      rw [DiskTree.locate_of_takesPath hpath, h.locateFrom_notePath hname,
        Option.not_isSome_iff_eq_none.1 (hfree hpath)]
      dsimp only [DiskTree.missing]
      rw [hplace]
      rfl
    | false => exact DiskTree.locate_of_not_takesPath hpath
  exact fails_contains_of_isTooLong hadmits ⟨hadmits.noNull, hlocate⟩

theorem gives_create (h : vault.OpensAt before folder place) (hname : IsFileName name)
    (hfree : ¬IsTaken before.tree place name)
    (htakes : vault.TakesNote before.tree folder place name)
    (hcontent : before.tree.takesText content = true) :
    (vault.create (notePath folder name) content).Gives before ⟨⟩
      { before with tree := before.tree.set (notePlace place name) (.file (.text content)) } :=
  gives_create_iff.2 ⟨admits_notePath h.admits hname, hcontent, notePlace place name,
    h.locate_of_takesNote hname hfree htakes, rfl⟩

/-- A text that cannot be written leaves the note empty. -/
theorem fails_create (h : vault.OpensAt before folder place) (hname : IsFileName name)
    (hfree : ¬IsTaken before.tree place name)
    (htakes : vault.TakesNote before.tree folder place name)
    (hcontent : before.tree.takesText content = false) :
    (vault.create (notePath folder name) content).Fails before .unwritable
      { before with tree := before.tree.set (notePlace place name) (.file (.text [])) } := by
  have hadmits := admits_notePath h.admits hname
  have hlocate : (locate (vault.diskPath (notePath folder name))).Gives before
      (.ok (.vacant (notePlace place name))) before :=
    gives_locate_iff.2 ⟨hadmits.noNull, (h.locate_of_takesNote hname hfree htakes).symm, rfl⟩
  exact hadmits.gives_toDisk.bind_fails (hlocate.bind_fails (fails_fillFile hcontent))

end OpensAt

/-! ### The search for a name -/

/-- How a search for a name ends that tries the names from `first` on and stops before `bound`: at
the first one that is not taken, if the disk takes it, or with none. -/
inductive SearchEnds (vault : Vault) (before : Session) (folder : Text) (place : List Text)
    (wanted : Text) (first bound : Nat) (search : Action Text) : Prop where
  | free {found : Nat} (hlt : found < bound)
      (gives : search.Gives before (numberedName wanted found) before)
      (isFree : ¬IsTaken before.tree place (numberedName wanted found))
      (takes : vault.TakesNote before.tree folder place (numberedName wanted found))
      (others : ∀ other, first ≤ other → other < found →
        IsTaken before.tree place (numberedName wanted other))
  | tooLong {found : Nat} (hlt : found < bound)
      (fails : search.Fails before (.system .nameTooLong
        (vault.diskPath (notePath folder (numberedName wanted found))).text) before)
      (takesNot : ¬vault.TakesNote before.tree folder place (numberedName wanted found))
      (others : ∀ other, first ≤ other → other < found →
        IsTaken before.tree place (numberedName wanted other))
  | none (fails : search.Fails before (.noFreeName wanted folder maxNameAttempts) before)
      (others : ∀ other, first ≤ other → other < bound →
        IsTaken before.tree place (numberedName wanted other))

namespace SearchEnds

variable {first bound : Nat} {rest : Action Text}

/-- The first name is tried, and the rest of the search goes on behind it. -/
theorem of_contains (h : vault.OpensAt before folder place) (hwanted : IsFileName wanted)
    (hbound : first < bound)
    (hrest : vault.SearchEnds before folder place wanted (first + 1) bound rest) :
    vault.SearchEnds before folder place wanted first bound (do
      if ← vault.contains (notePath folder (numberedName wanted first)) then rest
      else return numberedName wanted first) := by
  have hname := hwanted.numberedName first
  by_cases htaken : IsTaken before.tree place (numberedName wanted first) ∧
      before.tree.takesPath (vault.diskPath (notePath folder (numberedName wanted first))) = true
  · have hcontains := h.gives_contains_of_isTaken hname htaken.1 htaken.2
    have hall {stop : Nat} (hothers : ∀ other, first + 1 ≤ other → other < stop →
        IsTaken before.tree place (numberedName wanted other)) (other : Nat)
        (hle : first ≤ other) (hlt : other < stop) :
        IsTaken before.tree place (numberedName wanted other) := by
      rcases Nat.eq_or_lt_of_le hle with rfl | hlater
      · exact htaken.1
      · exact hothers other hlater hlt
    cases hrest with
    | free hlt gives isFree takes others =>
      exact .free hlt (gives_bind_iff.2 ⟨true, _, hcontains, gives⟩) isFree takes (hall others)
    | tooLong hlt fails takesNot others =>
      exact .tooLong hlt (hcontains.bind_fails fails) takesNot (hall others)
    | none fails others => exact .none (hcontains.bind_fails fails) (hall others)
  · by_cases htakes : vault.TakesNote before.tree folder place (numberedName wanted first)
    · have hfree : ¬IsTaken before.tree place (numberedName wanted first) :=
        fun hthere => htaken ⟨hthere, htakes.1⟩
      have hcontains := h.gives_contains_of_takesNote hname hfree htakes
      exact .free hbound
        (gives_bind_iff.2 ⟨false, _, hcontains, gives_pure_iff.2 ⟨rfl, rfl⟩⟩) hfree htakes
        fun other hle hlt => absurd hlt (Nat.not_lt_of_le hle)
    · have hfails := h.fails_contains_of_not_takesNote hname
        (fun hpath hthere => htaken ⟨hthere, hpath⟩) htakes
      exact .tooLong hbound (hfails.bind _) htakes
        fun other hle hlt => absurd hlt (Nat.not_lt_of_le hle)

/-- The induction is on the number of names that are left. -/
theorem freeNumberedName (h : vault.OpensAt before folder place) (hwanted : IsFileName wanted)
    (left number : Nat) :
    vault.SearchEnds before folder place wanted (number + 1) (number + 1 + left)
      (vault.freeNumberedName folder wanted left (number + 1)) := by
  induction left generalizing number with
  | zero =>
    exact .none (fails_throw _ _) fun other hle hlt => absurd hlt (Nat.not_lt_of_le hle)
  | succ left ih =>
    have hbound : number + 1 + (left + 1) = number + 1 + 1 + left := by omega
    rw [hbound]
    exact of_contains h hwanted (by omega) (ih (number + 1))

theorem freeName (h : vault.OpensAt before folder place) (hwanted : IsFileName wanted) :
    vault.SearchEnds before folder place wanted 0 maxNameAttempts
      (vault.freeName folder wanted) :=
  of_contains h hwanted (by decide) (freeNumberedName h hwanted (maxNameAttempts - 1) 0)

end SearchEnds

/-! ### The folder of the note -/

/-- The place of a folder of the vault. -/
def folderPlace (vault : Vault) (here : List Text) (folder : Text) : List Text :=
  vault.root.resolve here ++ vaultParts folder

/-- Why a note cannot be put into a folder. -/
inductive Refuses (vault : Vault) (session : Session) (folder : Text) : Prop where
  /-- No path on disk has a null character. -/
  | nullInPath (h : (vault.diskPath folder).hasNull = true)
  /-- The folder, or one that it needs, is a file. -/
  | blocked (h : session.tree.IsBlocked (vault.folderPlace session.here folder))
  /-- There is no vault to put a note into. -/
  | noVault (hroot : isRootPath folder = true)
      (h : session.tree.get? (vault.folderPlace session.here folder) = none)
  /-- Nothing can be asked about the folder. -/
  | tooLong (h : session.tree.IsTooLong session.here (vault.diskPath folder))

theorem resolve_diskPath (vault : Vault) (here : List Text)
    (hdots : ['.', '.'] ∉ vaultParts folder) :
    (vault.diskPath folder).resolve here = vault.folderPlace here folder :=
  DiskPath.resolve_append _ _ hdots

theorem admits_of_noDots (here : List Text) (hdots : ['.', '.'] ∉ vaultParts folder)
    (hnull : (vault.diskPath folder).hasNull = false) : vault.Admits here folder where
  noNull := hnull
  inside := by
    rw [resolve_diskPath vault here hdots]
    exact List.isPrefixOf_iff_prefix.2 (List.prefix_append _ _)

/-- The path of the vault leads on to the place of each of its folders. -/
theorem exists_leadsFrom (hsound : before.IsSound) (hvault : vault.LeadsOn before vaultRoot)
    (hdots : ['.', '.'] ∉ vaultParts folder) (hnull : (vault.diskPath folder).hasNull = false) :
    ∃ front names start, vault.diskPath folder = ⟨vault.root.root, front ++ names⟩ ∧
      LeadsFrom before vault.root.root front start names ∧
      start ++ names = vault.folderPlace before.here folder := by
  obtain ⟨front, names, start, hparts, hnames, hstart⟩ := hvault
  have hroot : vault.root.parts = front ++ names := by
    have hnil : vaultParts vaultRoot = [] := by decide
    rw [← hparts, diskPath, DiskPath.append, hnil, List.append_nil]
  have hfolder : vault.diskPath folder =
      ⟨vault.root.root, front ++ (names ++ vaultParts folder)⟩ := by
    rw [diskPath, DiskPath.append, hroot, List.append_assoc]
  have hall : ['.', '.'] ∉ names ++ vaultParts folder := by
    rw [List.mem_append, not_or]
    exact ⟨hnames, hdots⟩
  refine ⟨front, names ++ vaultParts folder, start, hfolder,
    ⟨hstart, hsound.get?_of_locate hstart, hall, hfolder ▸ hnull⟩, ?_⟩
  have hfront : DiskPath.follow (vault.root.origin before.here) front = start :=
    DiskPath.follow_of_locateFrom (DiskTree.locateFrom_of_locate hstart)
  rw [folderPlace, DiskPath.resolve, hroot, DiskPath.follow_append, hfront,
    DiskPath.follow_of_noDots hnames, List.append_assoc]

theorem fails_toDisk {path : Text} (hnull : (vault.diskPath path).hasNull = true) :
    (vault.toDisk path).Fails before .nullInPath before :=
  (fails_checkPath hnull).bind _

theorem fails_contains {path : Text} (hnull : (vault.diskPath path).hasNull = true) :
    (vault.contains path).Fails before .nullInPath before :=
  (fails_toDisk hnull).bind _

/-- A folder that is there is open. -/
theorem opensAt_of_get? (hsound : before.IsSound) (hvault : vault.LeadsOn before vaultRoot)
    (hdots : ['.', '.'] ∉ vaultParts folder) (hnull : (vault.diskPath folder).hasNull = false)
    (htakes : before.tree.takesPath (vault.diskPath folder) = true)
    (hfolder : before.tree.get? (vault.folderPlace before.here folder) = some .folder) :
    vault.OpensAt before folder (vault.folderPlace before.here folder) := by
  refine ⟨admits_of_noDots _ hdots hnull, ?_⟩
  obtain ⟨front, names, start, hpath, hleads, hplace⟩ :=
    exists_leadsFrom hsound hvault hdots hnull
  rw [← hplace] at hfolder ⊢
  rw [hpath] at htakes ⊢
  exact (DiskTree.locate_append hleads.located htakes).trans
    (hsound.grounded.locateFrom hleads.noDots hfolder)

theorem nodeIn_eq_get? (hsound : before.IsSound) (hvault : vault.LeadsOn before vaultRoot)
    (hdots : ['.', '.'] ∉ vaultParts folder) (hnull : (vault.diskPath folder).hasNull = false)
    (htakes : before.tree.takesPath (vault.diskPath folder) = true) :
    vault.nodeIn before folder = before.tree.get? (vault.folderPlace before.here folder) := by
  obtain ⟨front, names, start, hpath, hleads, hplace⟩ :=
    exists_leadsFrom hsound hvault hdots hnull
  rw [hpath] at htakes
  rw [nodeIn, hpath, ← hplace, hleads.node?_eq_get? hsound.grounded htakes]

/-- The folder at the end of a way is open when the way is filled. -/
theorem opensAt_of_fillsWay {tree : DiskTree} (hsound : before.IsSound)
    (hvault : vault.LeadsOn before vaultRoot) (hdots : ['.', '.'] ∉ vaultParts folder)
    (hnull : (vault.diskPath folder).hasNull = false)
    (htakes : before.tree.takesPath (vault.diskPath folder) = true)
    (hfills : DiskTree.FillsWay (vault.folderPlace before.here folder) before.tree tree) :
    vault.OpensAt { before with tree := tree } folder
      (vault.folderPlace before.here folder) := by
  refine ⟨admits_of_noDots _ hdots hnull, ?_⟩
  obtain ⟨front, names, start, hpath, hleads, hplace⟩ :=
    exists_leadsFrom hsound hvault hdots hnull
  have hfront : tree.locate before.here ⟨vault.root.root, front⟩ = .ok (.found start .folder) :=
    hfills.staysIn.locate hleads.located
  rw [← hfills.staysIn.takesPath_eq, hpath] at htakes
  rw [← hplace] at hfills ⊢
  rw [hpath]
  exact (DiskTree.locate_append hfront htakes).trans (hfills.locateFrom hleads.noDots)

/-- A missing folder is made, or a file is in the way, or a name on the way is too long. -/
theorem createFolder_fills_or_fails (hsound : before.IsSound)
    (hvault : vault.LeadsOn before vaultRoot) (hdots : ['.', '.'] ∉ vaultParts folder)
    (hnull : (vault.diskPath folder).hasNull = false)
    (htakes : before.tree.takesPath (vault.diskPath folder) = true) :
    FillsOrFails (vault.createFolder folder) before (vault.folderPlace before.here folder) := by
  have htarget := (admits_of_noDots before.here hdots hnull).gives_toDisk
  obtain ⟨front, names, start, hpath, hleads, hplace⟩ :=
    exists_leadsFrom hsound hvault hdots hnull
  rw [hpath] at htakes
  have hmade := hleads.makeFolders_fills_or_fails hsound.grounded htakes
  rw [← hpath, hplace] at hmade
  cases hmade with
  | filled gives fills => exact .filled (gives_bind_iff.2 ⟨_, _, htarget, gives⟩) fills
  | blocked fails isBlocked => exact .blocked (htarget.bind_fails fails) isBlocked
  | cut fails isCut fills => exact .cut (htarget.bind_fails fails) isCut fills

/-- Making sure of a folder makes what is missing of the way to it, up to a name that is too long,
or it changes nothing when no note can be put into the folder. -/
inductive EnsureEnds (vault : Vault) (before : Session) (folder : Text) : Prop where
  | filled {tree : DiskTree}
      (gives : (vault.ensureFolder folder).Gives before ⟨⟩ { before with tree := tree })
      (fills : DiskTree.FillsWay (vault.folderPlace before.here folder) before.tree tree)
      (opens : vault.OpensAt { before with tree := tree } folder
        (vault.folderPlace before.here folder))
  | refused {failure : Failure} (fails : (vault.ensureFolder folder).Fails before failure before)
      (refuses : vault.Refuses before folder)
  | ignored (gives : (vault.ensureFolder folder).Gives before ⟨⟩ before)
      (refuses : vault.Refuses before folder)
      (missing : (vault.diskPath folder).hasNull = true ∨
        before.tree.takesPath (vault.diskPath folder) = false ∨
        before.tree.get? (vault.folderPlace before.here folder) ≠ some .folder)
  | cut {tree : DiskTree} {way : List Text} {failure : Failure}
      (fails : (vault.ensureFolder folder).Fails before failure { before with tree := tree })
      (isCut : before.tree.IsCutAt way (vault.folderPlace before.here folder))
      (fills : DiskTree.FillsWay way before.tree tree)

/-- No folder is made for the root of the vault. -/
theorem ensureEnds_root (hsound : before.IsSound) (hvault : vault.LeadsOn before vaultRoot)
    (hdots : ['.', '.'] ∉ vaultParts folder) (hroot : isRootPath folder = true) :
    vault.EnsureEnds before folder := by
  have hgives : (vault.ensureFolder folder).Gives before ⟨⟩ before := by
    rw [ensureFolder, if_pos hroot]
    exact gives_pure_iff.2 ⟨rfl, rfl⟩
  cases hnull : (vault.diskPath folder).hasNull with
  | true => exact .ignored hgives (.nullInPath hnull) (Or.inl hnull)
  | false =>
    cases htakes : before.tree.takesPath (vault.diskPath folder) with
    | false =>
      exact .ignored hgives (.tooLong ⟨hnull, DiskTree.locate_of_not_takesPath htakes⟩)
        (Or.inr (Or.inl htakes))
    | true =>
      cases hstands : before.tree.get? (vault.folderPlace before.here folder) with
      | none =>
        exact .ignored hgives (.noVault hroot hstands) (Or.inr (Or.inr (by simp [hstands])))
      | some node =>
        cases node with
        | file content =>
          exact .ignored hgives (.blocked ⟨_, content, List.prefix_refl _, hstands⟩)
            (Or.inr (Or.inr (by simp [hstands])))
        | folder =>
          exact .filled hgives (.refl hsound.grounded hstands)
            (opensAt_of_get? hsound hvault hdots hnull htakes hstands)

theorem ensureFolder_eq (vault : Vault) (hroot : isRootPath folder = false) :
    vault.ensureFolder folder = (do
      if !(← vault.contains folder) then vault.createFolder folder
      else if !(← vault.hasFolder folder) then throw (.noFolder folder)
      else pure ()) := by
  rw [ensureFolder, if_neg (by simp [hroot])]

/-- Another folder is made when nothing stands at its path. -/
theorem ensureEnds_of_reaches (hsound : before.IsSound) (hvault : vault.LeadsOn before vaultRoot)
    (hdots : ['.', '.'] ∉ vaultParts folder) (hroot : isRootPath folder = false)
    (hreaches : vault.Reaches before folder) : vault.EnsureEnds before folder := by
  have hnull := hreaches.admits.noNull
  have htakes := DiskTree.takesPath_of_not_isTooLong hnull hreaches.notTooLong
  have hcontains := hreaches.gives_contains
  have hfolder := hreaches.gives_hasFolder
  have hensure := vault.ensureFolder_eq hroot
  rw [nodeIn_eq_get? hsound hvault hdots hnull htakes] at hcontains hfolder
  cases hstands : before.tree.get? (vault.folderPlace before.here folder) with
  | none =>
    rw [hstands] at hcontains
    cases createFolder_fills_or_fails hsound hvault hdots hnull htakes with
    | filled gives fills =>
      exact .filled (hensure ▸ gives_bind_iff.2 ⟨_, _, hcontains, gives⟩) fills
        (opensAt_of_fillsWay hsound hvault hdots hnull htakes fills)
    | blocked fails isBlocked =>
      exact .refused (hensure ▸ hcontains.bind_fails fails) (.blocked isBlocked)
    | cut fails isCut fills =>
      exact .cut (hensure ▸ hcontains.bind_fails fails) isCut fills
  | some node =>
    rw [hstands] at hcontains hfolder
    cases node with
    | file content =>
      exact .refused (hensure ▸ hcontains.bind_fails (hfolder.bind_fails (fails_throw _ _)))
        (.blocked ⟨_, content, List.prefix_refl _, hstands⟩)
    | folder =>
      exact .filled (hensure ▸ gives_bind_iff.2 ⟨_, _, hcontains,
        gives_bind_iff.2 ⟨_, _, hfolder, gives_pure_iff.2 ⟨rfl, rfl⟩⟩⟩)
        (.refl hsound.grounded hstands)
        (opensAt_of_get? hsound hvault hdots hnull htakes hstands)

theorem ensureFolder_ends (hsound : before.IsSound) (hvault : vault.LeadsOn before vaultRoot)
    (hdots : ['.', '.'] ∉ vaultParts folder) : vault.EnsureEnds before folder := by
  cases hroot : isRootPath folder with
  | true => exact ensureEnds_root hsound hvault hdots hroot
  | false =>
    have hensure := vault.ensureFolder_eq hroot
    cases hnull : (vault.diskPath folder).hasNull with
    | true => exact .refused (hensure ▸ (fails_contains hnull).bind _) (.nullInPath hnull)
    | false =>
      have hadmits := admits_of_noDots before.here hdots hnull
      by_cases htooLong : before.tree.IsTooLong before.here (vault.diskPath folder)
      · have hfails := fails_contains_of_isTooLong hadmits htooLong
        exact .refused (hensure ▸ hfails.bind _) (.tooLong htooLong)
      · exact ensureEnds_of_reaches hsound hvault hdots hroot ⟨hadmits, htooLong⟩

/-! ### A folder that is not there -/

theorem hasNull_notePath (hname : IsFileName name)
    (hnull : (vault.diskPath folder).hasNull = true) :
    (vault.diskPath (notePath folder name)).hasNull = true := by
  rw [DiskPath.hasNull, parts_notePath hname.isNoteName, List.any_append, Bool.or_eq_true]
  exact Or.inl hnull

/-- No path leads into a folder that is not there, or whose own path is too long. -/
theorem exists_error_of_missing (hsound : before.IsSound) (hvault : vault.LeadsOn before vaultRoot)
    (hdots : ['.', '.'] ∉ vaultParts folder) (hnull : (vault.diskPath folder).hasNull = false)
    (hmissing : before.tree.takesPath (vault.diskPath folder) = false ∨
      before.tree.get? (vault.folderPlace before.here folder) ≠ some .folder)
    (hname : IsFileName name) :
    ∃ error, before.tree.locate before.here (vault.diskPath (notePath folder name)) =
      .error error := by
  obtain ⟨front, names, start, hpath, hleads, hplace⟩ :=
    exists_leadsFrom hsound hvault hdots hnull
  have hpathNote : vault.diskPath (notePath folder name) =
      ⟨vault.root.root, front ++ (names ++ [name ++ '.' :: noteExtension])⟩ := by
    rw [diskPath_notePath hname.isNoteName, hpath, List.append_assoc]
  rcases hmissing with htakes | hmissing
  · refine ⟨.nameTooLong, DiskTree.locate_of_not_takesPath (Bool.eq_false_iff.2 fun hnote => ?_)⟩
    rw [hpathNote, ← List.append_assoc] at hnote
    rw [hpath, DiskTree.takesPath_of_append hnote] at htakes
    cases htakes
  rw [← hplace] at hmissing
  have hfollow : before.tree.locateFrom (DiskPath.origin before.here
      ⟨vault.root.root, front ++ (names ++ [name ++ '.' :: noteExtension])⟩) .folder
        (front ++ (names ++ [name ++ '.' :: noteExtension])) =
      before.tree.locateFrom start .folder (names ++ [name ++ '.' :: noteExtension]) :=
    DiskTree.locateFrom_append _ (DiskTree.locateFrom_of_locate hleads.located)
  rw [hpathNote]
  have hdotsNote : ['.', '.'] ∉ names ++ [name ++ '.' :: noteExtension] := by
    rw [List.mem_append, List.mem_singleton, not_or]
    exact ⟨hleads.noDots, Ne.symm (ne_doubleDot_of_note name)⟩
  cases hresult : before.tree.locateFrom start .folder
      (names ++ [name ++ '.' :: noteExtension]) with
  | error error => exact DiskTree.exists_locate_error (hfollow.trans hresult)
  | ok location =>
    cases location with
    | found spot node =>
      obtain rfl : spot = start ++ (names ++ [name ++ '.' :: noteExtension]) :=
        DiskTree.place_of_locateFrom hdotsNote hresult
      have hstands := DiskTree.get?_of_locateFrom hleads.stands hresult
      rw [← List.append_assoc] at hstands
      exact absurd (hsound.grounded.get?_folder hstands) hmissing
    | vacant spot =>
      obtain ⟨place, hfolder, -⟩ := DiskTree.exists_folder_of_vacant hresult
      obtain rfl : place = start ++ names := DiskTree.place_of_locateFrom hleads.noDots hfolder
      exact absurd (DiskTree.get?_of_locateFrom hleads.stands hfolder) hmissing

/-- In a folder that is not there no name is taken, but nothing can be created. -/
theorem fails_create_of_missing {error : SystemError} (content : Text)
    (hadmits : vault.Admits before.here (notePath folder wanted))
    (hlocate : before.tree.locate before.here (vault.diskPath (notePath folder wanted)) =
      .error error) :
    (∃ failure, (vault.freeName folder wanted).Fails before failure before) ∨
    (vault.freeName folder wanted).Gives before wanted before ∧
      ∃ failure, (vault.create (notePath folder wanted) content).Fails before failure before := by
  by_cases htooLong : before.tree.IsTooLong before.here (vault.diskPath (notePath folder wanted))
  · exact Or.inl ⟨_, (fails_contains_of_isTooLong hadmits htooLong).bind _⟩
  · refine Or.inr ⟨?_, ?_⟩
    · have hnode : vault.nodeIn before (notePath folder wanted) = none := by
        rw [nodeIn, DiskTree.node?_eq, hadmits.noNull, hlocate]
        rfl
      have hcontains := (⟨hadmits, htooLong⟩ : vault.Reaches before _).gives_contains
      rw [hnode] at hcontains
      exact gives_bind_iff.2 ⟨_, _, hcontains, gives_pure_iff.2 ⟨rfl, rfl⟩⟩
    · have hfound := gives_locate_iff.2 ⟨hadmits.noNull, hlocate.symm, rfl⟩
      exact ⟨_, hadmits.gives_toDisk.bind_fails (hfound.bind_fails (fails_throw _ _))⟩

/-! ### The note -/

/-- One file is new, in a folder of the vault, and so are the folders on the way to it that were
missing.  The note has the first free one of the names that are tried. -/
structure AddsOneNote (vault : Vault) (folder wanted content : Text) (note : CreatedNote)
    (before after : Session) : Prop where
  path_eq : note.path = notePath folder note.filename
  vacant : ¬IsTaken before.tree (vault.folderPlace before.here folder) note.filename
  clear : ¬before.tree.IsBlocked (vault.folderPlace before.here folder)
  get?_eq : ∀ spot, after.tree.get? spot =
    if spot = notePlace (vault.folderPlace before.here folder) note.filename then
      some (.file (.text content))
    else if spot <+: vault.folderPlace before.here folder then some .folder
    else before.tree.get? spot
  firstFree : ∃ found < maxNameAttempts, note.filename = numberedName wanted found ∧
    ∀ other < found,
      IsTaken before.tree (vault.folderPlace before.here folder) (numberedName wanted other)
  resolved : note.conflictResolved = true ↔ note.filename ≠ wanted
  rest_eq : after = { before with tree := after.tree }

/-- What is tried first is taken only in a folder that is there, and there nothing was made. -/
theorem eq_of_isTaken {tree : DiskTree} (hsound : before.IsSound)
    (hvault : vault.LeadsOn before vaultRoot) (hdots : ['.', '.'] ∉ vaultParts folder)
    (hopens : vault.OpensAt { before with tree := tree } folder
      (vault.folderPlace before.here folder))
    (hgives : (vault.ensureFolder folder).Gives before ⟨⟩ { before with tree := tree })
    (hfills : DiskTree.FillsWay (vault.folderPlace before.here folder) before.tree tree)
    (htaken : IsTaken tree (vault.folderPlace before.here folder) wanted) :
    ({ before with tree := tree } : Session) = before := by
  obtain ⟨node, hnode⟩ := Option.isSome_iff_exists.1 htaken
  rw [notePlace, hfills.get?_behind] at hnode
  have hfolder := hsound.grounded.get?_folder hnode
  have htakes := (DiskTree.locate_eq_ok_iff.1 hopens.located).1
  rw [hfills.staysIn.takesPath_eq] at htakes
  exact ensureFolder_of_hasFolderAt
    ⟨_, (opensAt_of_get? hsound hvault hdots hopens.admits.noNull htakes hfolder).located⟩ hgives

theorem isTaken_fillsWay_iff {tree : DiskTree} (h : DiskTree.FillsWay place before.tree tree) :
    IsTaken tree place name ↔ IsTaken before.tree place name := by
  rw [IsTaken, IsTaken, notePlace, h.get?_behind]

/-- A file is put into the folder at the end of a way. -/
theorem get?_set_notePlace {tree : DiskTree} {node : DiskNode}
    (h : DiskTree.FillsWay place before.tree tree) (hfree : ¬IsTaken tree place name)
    (spot : List Text) :
    (tree.set (notePlace place name) node).get? spot =
      if spot = notePlace place name then some node
      else if spot <+: place then some .folder else before.tree.get? spot := by
  split
  · next hspot => rw [hspot, DiskTree.get?_set_self (Option.not_isSome_iff_eq_none.1 hfree)]
  · next hspot => rw [DiskTree.get?_set_of_ne _ hspot, h.get?_eq]

/-- What is left of a note that could not be created. -/
inductive LeavesBehind (vault : Vault) (folder wanted content : Text) (before : Session)
    (failure : Failure) (after : Session) : Prop where
  /-- A name on the way to the folder is too long; the folders in front of it are there. -/
  | folders {way : List Text}
      (isCut : before.tree.IsCutAt way (vault.folderPlace before.here folder))
      (fills : DiskTree.FillsWay way before.tree after.tree)
      (rest_eq : after = { before with tree := after.tree })
  /-- The name of the note is too long, or its path; all folders are there. -/
  | allFolders {found : Nat} (hlt : found < maxNameAttempts)
      (failure_eq : failure = .system .nameTooLong
        (vault.diskPath (notePath folder (numberedName wanted found))).text)
      (takesNot : ¬vault.TakesNote before.tree folder (vault.folderPlace before.here folder)
        (numberedName wanted found))
      (others : ∀ other < found,
        IsTaken before.tree (vault.folderPlace before.here folder) (numberedName wanted other))
      (fills : DiskTree.FillsWay (vault.folderPlace before.here folder) before.tree after.tree)
      (rest_eq : after = { before with tree := after.tree })
  /-- The text cannot be written; the note is there, without a text. -/
  | emptyNote {note : CreatedNote} (failure_eq : failure = .unwritable)
      (takesNot : before.tree.takesText content = false)
      (adds : vault.AddsOneNote folder wanted [] note before after)

theorem takesNote_fillsWay_iff {way : List Text} {tree : DiskTree}
    (h : DiskTree.FillsWay way before.tree tree) :
    vault.TakesNote tree folder place name ↔ vault.TakesNote before.tree folder place name := by
  rw [TakesNote, TakesNote, DiskTree.takesPath, DiskTree.takesPath, DiskTree.takesPlace,
    DiskTree.takesPlace, h.system_eq]

theorem takesText_fillsWay {way : List Text} {tree : DiskTree}
    (h : DiskTree.FillsWay way before.tree tree) :
    tree.takesText content = before.tree.takesText content := by
  rw [DiskTree.takesText, DiskTree.takesText, h.system_eq]

/-- A file under the first free name, in a folder at the end of a way that is filled, is one note
more. -/
theorem addsOneNote_of_fillsWay {tree : DiskTree} {found : Nat}
    (hfills : DiskTree.FillsWay (vault.folderPlace before.here folder) before.tree tree)
    (hlt : found < maxNameAttempts)
    (hfree : ¬IsTaken tree (vault.folderPlace before.here folder) (numberedName wanted found))
    (hothers : ∀ other, 0 ≤ other → other < found →
      IsTaken tree (vault.folderPlace before.here folder) (numberedName wanted other)) :
    vault.AddsOneNote folder wanted content
      ⟨notePath folder (numberedName wanted found), numberedName wanted found,
        numberedName wanted found ≠ wanted⟩ before
      { before with
        tree := tree.set (notePlace (vault.folderPlace before.here folder)
          (numberedName wanted found)) (.file (.text content)) } where
  path_eq := rfl
  vacant htaken := hfree ((isTaken_fillsWay_iff hfills).2 htaken)
  clear := hfills.clear
  get?_eq := get?_set_notePlace hfills hfree
  firstFree := ⟨found, hlt, rfl, fun other hother =>
    (isTaken_fillsWay_iff hfills).1 (hothers other (Nat.zero_le _) hother)⟩
  resolved := decide_eq_true_iff
  rest_eq := rfl

/-- How the creation of a note ends: with one note more, with nothing changed, or with something
left behind. -/
inductive CreationEnds (vault : Vault) (folder wanted content : Text) (before : Session)
    (action : Action CreatedNote) : Prop where
  | added {note : CreatedNote} {after : Session} (gives : action.Gives before note after)
      (adds : vault.AddsOneNote folder wanted content note before after)
  | refused {failure : Failure} (fails : action.Fails before failure before)
      (refuses : vault.Refuses before folder)
  | allTaken (fails : action.Fails before (.noFreeName wanted folder maxNameAttempts) before)
      (taken : ∀ found < maxNameAttempts,
        IsTaken before.tree (vault.folderPlace before.here folder) (numberedName wanted found))
  | late {failure : Failure} {after : Session} (fails : action.Fails before failure after)
      (leaves : vault.LeavesBehind folder wanted content before failure after)

/-- In a folder that is there or has just been made, the note is created unless all names are
taken, or the name is too long, or the text cannot be written. -/
theorem createNote_of_opensAt {tree : DiskTree} (hsound : before.IsSound)
    (hvault : vault.LeadsOn before vaultRoot) (hdots : ['.', '.'] ∉ vaultParts folder)
    (title content : Text)
    (hgives : (vault.ensureFolder folder).Gives before ⟨⟩ { before with tree := tree })
    (hfills : DiskTree.FillsWay (vault.folderPlace before.here folder) before.tree tree)
    (hopens : vault.OpensAt { before with tree := tree } folder
      (vault.folderPlace before.here folder)) :
    vault.CreationEnds folder (noteName (cleanFilename title)) content before
      (vault.createNote folder title content) := by
  have hwanted := isFileName_noteName title
  cases SearchEnds.freeName hopens hwanted with
  | @free found hlt gives isFree takes others =>
    have hname := hwanted.numberedName found
    cases htakes : tree.takesText content with
    | true =>
      have hcreate := hopens.gives_create hname isFree takes htakes
      exact .added (gives_bind_iff.2 ⟨_, _, hgives, gives_bind_iff.2 ⟨_, _, gives,
        gives_bind_iff.2 ⟨_, _, hcreate, gives_pure_iff.2 ⟨rfl, rfl⟩⟩⟩⟩)
        (addsOneNote_of_fillsWay hfills hlt isFree others)
    | false =>
      have hcreate := hopens.fails_create hname isFree takes htakes
      exact .late (hgives.bind_fails (gives.bind_fails (hcreate.bind _)))
        (.emptyNote rfl ((takesText_fillsWay hfills).symm.trans htakes)
          (addsOneNote_of_fillsWay hfills hlt isFree others))
  | tooLong hlt fails takesNot others =>
    exact .late (hgives.bind_fails (fails.bind _))
      (.allFolders hlt rfl (fun htakes => takesNot ((takesNote_fillsWay_iff hfills).2 htakes))
        (fun other hother => (isTaken_fillsWay_iff hfills).1 (others other (Nat.zero_le _) hother))
        hfills rfl)
  | none fails others =>
    have hsame := eq_of_isTaken hsound hvault hdots hopens hgives hfills
      (others 0 (Nat.le_refl _) (by decide))
    rw [hsame] at hgives fails others
    exact .allTaken (hgives.bind_fails (fails.bind _))
      fun found hlt => others found (Nat.zero_le _) hlt

/-- Without a folder nothing is created. -/
theorem createNote_of_ignored (hsound : before.IsSound) (hvault : vault.LeadsOn before vaultRoot)
    (hdots : ['.', '.'] ∉ vaultParts folder) (title content : Text)
    (hgives : (vault.ensureFolder folder).Gives before ⟨⟩ before)
    (hmissing : (vault.diskPath folder).hasNull = true ∨
      before.tree.takesPath (vault.diskPath folder) = false ∨
      before.tree.get? (vault.folderPlace before.here folder) ≠ some .folder) :
    ∃ failure, (vault.createNote folder title content).Fails before failure before := by
  have hwanted := isFileName_noteName title
  cases hnull : (vault.diskPath folder).hasNull with
  | true =>
    have hfails : (vault.freeName folder (noteName (cleanFilename title))).Fails before
        .nullInPath before := (fails_contains (hasNull_notePath hwanted hnull)).bind _
    exact ⟨_, hgives.bind_fails (hfails.bind _)⟩
  | false =>
    have hadmits := OpensAt.admits_notePath (admits_of_noDots before.here hdots hnull) hwanted
    obtain ⟨error, hlocate⟩ := exists_error_of_missing hsound hvault hdots hnull
      (hmissing.resolve_left (by simp [hnull])) hwanted
    rcases fails_create_of_missing content hadmits hlocate with
      ⟨failure, hfails⟩ | ⟨hname, failure, hfails⟩
    · exact ⟨failure, hgives.bind_fails (hfails.bind _)⟩
    · exact ⟨failure, hgives.bind_fails (hname.bind_fails (hfails.bind _))⟩

/-- Creating a note adds one file, or changes nothing, or fails too late. -/
theorem createNote_ends (hsound : before.IsSound) (hvault : vault.LeadsOn before vaultRoot)
    (hdots : ['.', '.'] ∉ vaultParts folder) (title content : Text) :
    vault.CreationEnds folder (noteName (cleanFilename title)) content before
      (vault.createNote folder title content) := by
  cases ensureFolder_ends hsound hvault hdots with
  | filled gives fills opens =>
    exact createNote_of_opensAt hsound hvault hdots title content gives fills opens
  | refused fails refuses => exact .refused (fails.bind _) refuses
  | ignored gives refuses missing =>
    obtain ⟨failure, hfails⟩ :=
      createNote_of_ignored hsound hvault hdots title content gives missing
    exact .refused hfails refuses
  | cut fails isCut fills => exact .late (fails.bind _) (.folders isCut fills rfl)

end Vault

end NoteTemplate
