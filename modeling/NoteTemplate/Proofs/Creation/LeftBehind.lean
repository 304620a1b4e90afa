import NoteTemplate.Proofs.Creation.Advance
import NoteTemplate.Proofs.Title.Tidy
import NoteTemplate.Proofs.Vault.OneNote

/-!
# A planned note is created, or what is left of it

The title and the text of a note are made before anything is looked up on the disk, so a plan
that cannot be rendered leaves everything as it was, and so do most of the failures behind that.
The others come after the folders of the note have been made, or even the note: names that are
too long, and texts that no file can hold (`createPlanned_adds_or_leaves`).
-/

namespace NoteTemplate

open NoteTemplate.Action

variable {vault : Vault} {plan : CreationPlan} {settings : DateTimeSettings} {moment : Moment}
  {titleValues noteValues : PromptValues} {before after : Session} {title content : Text}
  {failure : Failure}

theorem CreationPlan.cleanFilename_filename [LocalZone]
    (h : plan.filename settings moment titleValues = .ok title) : cleanFilename title = title := by
  rw [CreationPlan.filename] at h
  cases hrendered : plan.title .final settings moment titleValues with
  | error failure =>
    rw [hrendered] at h
    cases h
  | ok rendered =>
    rw [hrendered] at h
    obtain rfl := Except.ok.inj h
    exact cleanFilename_cleanFilename rendered

namespace Vault

/-- A vault that is there leads on to itself. -/
theorem HasFolderAt.leadsOn {path : Text} (h : vault.HasFolderAt before path) :
    vault.LeadsOn before path := by
  obtain ⟨place, hplace⟩ := h
  exact ⟨_, [], place, (List.append_nil _).symm, List.not_mem_nil, hplace⟩

/-- Why the note of a plan is not created. -/
inductive Declines [LocalZone] (vault : Vault) (plan : CreationPlan) (settings : DateTimeSettings)
    (moment : Moment) (titleValues noteValues : PromptValues) (session : Session)
    (failure : Failure) : Prop where
  /-- The title cannot be rendered. -/
  | title (h : plan.filename settings moment titleValues = .error failure)
  /-- The text cannot be rendered. -/
  | content (title : Text) (htitle : plan.filename settings moment titleValues = .ok title)
      (h : plan.noteText (some title) settings moment noteValues = .error failure)
  /-- No note can be put into the folder. -/
  | folder (h : vault.Refuses session plan.folder)
  /-- All names that are tried are taken. -/
  | names (title : Text) (htitle : plan.filename settings moment titleValues = .ok title)
      (hfailure : failure = .noFreeName (noteName title) plan.folder maxNameAttempts)
      (h : ∀ found < maxNameAttempts, IsTaken session.tree
        (vault.folderPlace session.here plan.folder) (numberedName (noteName title) found))

/-- A plan that can be rendered leads to its note. -/
theorem outcome_createPlanned [LocalZone]
    (htitle : plan.filename settings moment titleValues = .ok title)
    (hcontent : plan.noteText (some title) settings moment noteValues = .ok content)
    (before : Session) :
    (vault.createPlanned plan settings moment titleValues noteValues).outcome before =
      (vault.createNote plan.folder title content).outcome before := by
  rw [createPlanned, htitle, outcome_bind, outcome_ofExcept]
  dsimp only
  rw [hcontent, outcome_bind, outcome_ofExcept]

/-- Creating a planned note fails when the plan cannot be rendered, and else it ends as the
creation of its note does. -/
theorem createPlanned_cases [LocalZone] (plan : CreationPlan) (settings : DateTimeSettings)
    (moment : Moment) (titleValues noteValues : PromptValues) (before : Session) :
    (∃ failure,
      (vault.createPlanned plan settings moment titleValues noteValues).Fails before failure
        before ∧
      (plan.filename settings moment titleValues = .error failure ∨
        ∃ title, plan.filename settings moment titleValues = .ok title ∧
          plan.noteText (some title) settings moment noteValues = .error failure)) ∨
    ∃ title content, plan.filename settings moment titleValues = .ok title ∧
      plan.noteText (some title) settings moment noteValues = .ok content ∧
      (vault.createPlanned plan settings moment titleValues noteValues).outcome before =
        (vault.createNote plan.folder title content).outcome before := by
  rw [createPlanned]
  cases htitle : plan.filename settings moment titleValues with
  | error failure => exact Or.inl ⟨failure, Fails.bind (fails_throw _ _) _, Or.inl rfl⟩
  | ok title =>
    have htitleGives : (Action.ofExcept (.ok title)).Gives before title before :=
      gives_ofExcept_iff.2 ⟨rfl, rfl⟩
    cases hcontent : plan.noteText (some title) settings moment noteValues with
    | error failure =>
      refine Or.inl ⟨failure, htitleGives.bind_fails ?_, Or.inr ⟨title, rfl, hcontent⟩⟩
      rw [hcontent]
      exact Fails.bind (fails_throw _ _) _
    | ok content =>
      refine Or.inr ⟨title, content, rfl, hcontent, ?_⟩
      rw [← htitle, ← createPlanned]
      exact outcome_createPlanned htitle hcontent before

end Vault

/-- Creating the note of a plan adds exactly one file and the folders that it needs, under the
first free name, or it fails.  Then the session is as it was and there is a cause for it, or one of
three things is left behind: the folders in front of a name that is too long, all folders, where
the name of the note is too long, or the note itself without its text.  The vault may itself be
missing, as long as no double dots stand behind what is missing of its path. -/
theorem createPlanned_adds_or_leaves [LocalZone] (hsound : before.IsSound)
    (hvault : vault.LeadsOn before vaultRoot) (hdots : ['.', '.'] ∉ vaultParts plan.folder) :
    (∀ note after,
      (vault.createPlanned plan settings moment titleValues noteValues).Gives before note after →
      ∃ title content, plan.filename settings moment titleValues = .ok title ∧
        plan.noteText (some title) settings moment noteValues = .ok content ∧
        vault.AddsOneNote plan.folder (Vault.noteName title) content note before after) ∧
    ∀ failure after,
      (vault.createPlanned plan settings moment titleValues noteValues).Fails before failure
        after →
      after = before ∧ vault.Declines plan settings moment titleValues noteValues before
        failure ∨
      ∃ title content, plan.filename settings moment titleValues = .ok title ∧
        plan.noteText (some title) settings moment noteValues = .ok content ∧
        vault.LeavesBehind plan.folder (Vault.noteName title) content before failure after := by
  rcases vault.createPlanned_cases plan settings moment titleValues noteValues before with
    ⟨failure, hfails, hwhy⟩ | ⟨title, content, htitle, hcontent, houtcome⟩
  · refine ⟨fun note after hgives => absurd hgives hfails.not_gives, fun other after hother => ?_⟩
    obtain ⟨rfl, rfl⟩ := hfails.unique hother
    rcases hwhy with htitle | ⟨title, htitle, hcontent⟩
    · exact Or.inl ⟨rfl, .title htitle⟩
    · exact Or.inl ⟨rfl, .content title htitle hcontent⟩
  · have hends := Vault.createNote_ends hsound hvault hdots title content
    rw [CreationPlan.cleanFilename_filename htitle] at hends
    simp only [Gives, Fails, houtcome]
    cases hends with
    | added gives adds =>
      refine ⟨fun note after hgives => ?_, fun failure after hfails => ?_⟩
      · obtain ⟨rfl, rfl⟩ := gives.unique hgives
        exact ⟨title, content, htitle, hcontent, adds⟩
      · exact absurd gives (Fails.not_gives hfails)
    | refused fails refuses =>
      refine ⟨fun note after hgives => absurd hgives fails.not_gives,
        fun failure after hfails => ?_⟩
      obtain ⟨rfl, rfl⟩ := fails.unique hfails
      exact Or.inl ⟨rfl, .folder refuses⟩
    | allTaken fails taken =>
      refine ⟨fun note after hgives => absurd hgives fails.not_gives,
        fun failure after hfails => ?_⟩
      obtain ⟨rfl, rfl⟩ := fails.unique hfails
      exact Or.inl ⟨rfl, .names title htitle rfl taken⟩
    | late fails leaves =>
      refine ⟨fun note after hgives => absurd hgives fails.not_gives,
        fun failure after hfails => ?_⟩
      obtain ⟨rfl, rfl⟩ := fails.unique hfails
      exact Or.inr ⟨title, content, htitle, hcontent, leaves⟩

/-! ### A shelf -/

/-- The diary with a shelf, on which notes of these names stand. -/
def shelfSession (names : List Text) : Session where
  tree := ⟨(["vault".toList], .folder) :: (["vault".toList, "Old".toList], .folder) ::
    names.map fun name => (["vault".toList, "Old".toList, name], .file (.text [])), .usual⟩
  here := []
  notices := []
  nextPrompt := 0
  maxNesting := 900

/-- A plan for the fourth day in a folder. -/
def shelfPlan (folder : Text) : CreationPlan :=
  { dayPlan dayPattern 4 with folder := folder }

section

attribute [local instance] LocalZone.utc

/-- On the shelf the fourth day is there already, so the new note gets a number; and nothing is
put into a note as into a folder. -/
theorem createPlanned_adds_shelfNote :
    let shelf := shelfSession ["Day 4.md".toList]
    let later := shelfSession ["Day 4.md".toList, "Day 4 1.md".toList]
    let note : CreatedNote := ⟨"Old/Day 4 1.md".toList, "Day 4 1".toList, true⟩
    let inNote := shelfPlan "Old/Day 4.md/May".toList
    shelf.IsSound ∧ diary.LeadsOn shelf vaultRoot ∧
    ['.', '.'] ∉ vaultParts "Old".toList ∧ ['.', '.'] ∉ vaultParts inNote.folder ∧
    (diary.createPlanned (shelfPlan "Old".toList) .default dayMoment [] []).Gives shelf note
      later ∧
    (∃ title content, (shelfPlan "Old".toList).filename .default dayMoment [] = .ok title ∧
      (shelfPlan "Old".toList).noteText (some title) .default dayMoment [] = .ok content ∧
      diary.AddsOneNote "Old".toList (Vault.noteName title) content note shelf later) ∧
    ∃ failure, (diary.createPlanned inNote .default dayMoment [] []).Fails shelf failure shelf ∧
      diary.Declines inNote .default dayMoment [] [] shelf failure := by
  intro shelf later note inNote
  have hsound : shelf.IsSound := by decide
  have hvault : diary.LeadsOn shelf vaultRoot :=
    Vault.HasFolderAt.leadsOn ⟨["vault".toList], by decide⟩
  have hshelf : ['.', '.'] ∉ vaultParts (shelfPlan "Old".toList).folder := by decide
  have hinNote : ['.', '.'] ∉ vaultParts inNote.folder := by decide
  have hrender : renderTitle .final ⟨.default, dayMoment.now, some 4, .filename⟩ [] []
      dayPattern = .ok "Day 4".toList := by
    rw [renderTitle, titlePieces, List.isEmpty_nil, Bool.not_true, chosenTitleTags_false]
    decide +kernel
  have hgives : (diary.createPlanned (shelfPlan "Old".toList) .default dayMoment [] []).Gives
      shelf note later := by
    refine Vault.gives_createPlanned hrender rfl ?_
    unfold Gives
    decide +kernel
  have htitle : inNote.filename .default dayMoment [] = .ok "Day 4".toList := by
    have hfound : inNote.title .final .default dayMoment [] = .ok "Day 4".toList := hrender
    rw [CreationPlan.filename, hfound]
    decide +kernel
  have hfails : (diary.createPlanned inNote .default dayMoment [] []).Fails shelf
      (.system .notFolder "/vault/Old/Day 4.md/May".toList) shelf := by
    rw [Fails, Vault.outcome_createPlanned htitle rfl]
    decide +kernel
  refine ⟨hsound, hvault, hshelf, hinNote, hgives,
    (createPlanned_adds_or_leaves hsound hvault hshelf).1 _ _ hgives, _, hfails, ?_⟩
  rcases (createPlanned_adds_or_leaves hsound hvault hinNote).2 _ _ hfails with
    ⟨-, hdeclines⟩ | ⟨title, content, -, -, hleaves⟩
  · exact hdeclines
  · cases hleaves with
    | folders isCut fills rest_eq =>
      have hshort : ∀ spot ∈ (diary.folderPlace shelf.here inNote.folder).inits,
          shelf.tree.takesPlace spot = true := by
        decide +kernel
      obtain ⟨name, hway, -, hlong⟩ := isCut
      rw [hshort _ ((List.mem_inits _ _).2 hway)] at hlong
      cases hlong
    | allFolders hlt failure_eq => cases failure_eq
    | emptyNote failure_eq => cases failure_eq

/-- A title of three hundred letters. -/
def longTitle : Text := List.replicate 300 'x'

/-- A plan for a note with this title in a new folder. -/
def longPlan : CreationPlan := ⟨dayTemplate longTitle, "New".toList, none, [], [], none⟩

/-- The folder is made before the name of the note turns out to be too long. -/
theorem createPlanned_leaves_newFolder :
    (diarySession []).IsSound ∧ diary.LeadsOn (diarySession []) vaultRoot ∧
      ['.', '.'] ∉ vaultParts longPlan.folder ∧
      ∃ failure after,
        (diary.createPlanned longPlan .default dayMoment [] []).Fails (diarySession []) failure
          after ∧
        (diarySession []).tree.get? ["vault".toList, "New".toList] = none ∧
        after.tree.get? ["vault".toList, "New".toList] = some .folder := by
  have hrender : renderTitle .final ⟨.default, dayMoment.now, none, .filename⟩ [] []
      longTitle = .ok longTitle := by
    rw [renderTitle, titlePieces, List.isEmpty_nil, Bool.not_true, chosenTitleTags_false]
    decide +kernel
  have htitle : longPlan.filename .default dayMoment [] = .ok longTitle := by
    have hfound : longPlan.title .final .default dayMoment [] = .ok longTitle := hrender
    rw [CreationPlan.filename, hfound]
    decide +kernel
  have hfails : (diary.createPlanned longPlan .default dayMoment [] []).Fails (diarySession [])
      (.system .nameTooLong ("/vault/New/".toList ++ longTitle ++ ".md".toList))
      { diarySession [] with
        tree := (diarySession []).tree.set ["vault".toList, "New".toList] .folder } := by
    rw [Fails, Vault.outcome_createPlanned htitle rfl]
    decide +kernel
  exact ⟨by decide, Vault.HasFolderAt.leadsOn ⟨["vault".toList], by decide⟩, by decide, _, _,
    hfails, by decide, by decide⟩

end

end NoteTemplate
