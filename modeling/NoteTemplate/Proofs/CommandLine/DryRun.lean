import NoteTemplate.CommandLine.Commands
import NoteTemplate.Proofs.CommandLine.Ending
import NoteTemplate.Proofs.Creation.TitleInText
import NoteTemplate.Proofs.Terminal.Escaped

/-!
# Notes that are announced

The command for a new note prepares it in the same way whether it is created or only announced.
A dry run announces the title that the note would be created with, and not the name that a note
without a title would get.  The folder and the title are escaped apart: if one of them has no
brackets, the line is shown, and otherwise the console may take a part of both for a tag that
closes nothing, and refuse the line.
-/

namespace NoteTemplate

open NoteTemplate.Action

variable {location : VaultLocation} {clock : Instant} {request : NewRequest}
  {plan : CreationPlan} {settings : DateTimeSettings} {moment : Moment}
  {titleValues noteValues : PromptValues} {folder title : Text}

section

variable [Styling]

namespace CommandAction

/-- A new note, when all questions about it have been answered. -/
structure PreparedNote where
  workspace : Workspace
  plan : CreationPlan
  titleValues : PromptValues
  noteValues : PromptValues
deriving DecidableEq, Repr

/-- Plan a note and ask for its values. -/
def prepareNew (location : VaultLocation) (request : NewRequest) : CommandAction PreparedNote := do
  let workspace ← load location
  let template ← templateFor workspace.settings request.template
  requireUsable template.titlePattern
  let named ← assigned request.assignments
  let plan ← planFor workspace template request.folder
  let titleValues ← collectValues plan.titlePrompts named !request.noInput
  let noteValues ← collectValues plan.notePrompts named !request.noInput
  return ⟨workspace, plan, titleValues, noteValues⟩

/-! ### The line -/

/-- The work ends with one more line, or with the reason for which the console refuses it. -/
def EndsSaying (action : CommandAction Unit) (before prepared : Console) (line : Text) : Prop :=
  match Styling.refusal? line with
  | none => action.Ends before (.ok ()) (prepared.taking [.line line])
  | some reason => action.Ends before (.error (.failure (.unprintable reason))) prepared

theorem endsSaying_printLine (line : Text) (before : Console) :
    EndsSaying (printLine line) before before line := by
  rw [EndsSaying]
  cases hrefusal : Styling.refusal? line with
  | none => exact ends_printLine hrefusal before
  | some reason =>
    have hmessage : (Message.line line).refusal? = some reason := hrefusal
    exact ends_say_of_refused hmessage before

/-- What is done first does not change how the line ends. -/
theorem EndsSaying.bind {α : Type} {action : CommandAction α} {next : α → CommandAction Unit}
    {before middle prepared : Console} {value : α} {line : Text}
    (h : EndsSaying (next value) middle prepared line)
    (hfirst : action.Ends before (.ok value) middle) :
    EndsSaying (action >>= next) before prepared line := by
  rw [EndsSaying] at h ⊢
  cases hrefusal : Styling.refusal? line with
  | none =>
    rw [hrefusal] at h
    exact hfirst.bind h
  | some reason =>
    rw [hrefusal] at h
    exact hfirst.bind h

/-- The line is shown when no tag can reach from the folder into the title. -/
theorem refusal?_dryRunLine (h : folder.IsWords ∨ title.IsWords) :
    Styling.refusal? (dryRunLine folder title) = none := by
  have hwords : Text.IsWords "DRY RUN: would create ".toList ∧ Text.IsWords " -> ".toList ∧
      Text.IsWords ".md".toList := by decide
  unfold dryRunLine
  rcases h with h | h
  · have hfront : Text.IsWords ("DRY RUN: would create ".toList ++ folder ++ " -> ".toList) :=
      .append (.append hwords.1 h) hwords.2.1
    rw [Styling.escape_of_isWords h]
    exact Styling.refusal?_escape title hfront hwords.2.2
  · have hbehind : Text.IsWords (" -> ".toList ++ (title ++ ".md".toList)) :=
      .append hwords.2.1 (.append h hwords.2.2)
    have hshown := Styling.refusal?_escape folder hwords.1 hbehind
    rw [Styling.escape_of_isWords h]
    simpa only [List.append_assoc] using hshown

/-! ### Two ways behind one preparation -/

variable [LocalZone]

/-- Tell which note would be created. -/
def PreparedNote.announce (prepared : PreparedNote) (clock : Instant) : CommandAction Unit := do
  let title ← ofExcept (prepared.plan.filename prepared.workspace.formats (Moment.ofClock clock)
    prepared.titleValues)
  printLine (dryRunLine prepared.plan.folder title)

/-- Create the note. -/
def PreparedNote.create (prepared : PreparedNote) (clock : Instant) : CommandAction Unit := do
  let created ← orExplain (onSession (prepared.workspace.vault.createPlanned prepared.plan
    prepared.workspace.formats (Moment.ofClock clock) prepared.titleValues prepared.noteValues))
  printLine ("Created: ".toList ++ Styling.escape created.path)
  if created.conflictResolved then
    printLine (styled "dim" "Name was taken; a numeric suffix was added.".toList)

/-- Whether the note is announced or created is decided when it has been prepared. -/
theorem runNew_eq (location : VaultLocation) (clock : Instant) (request : NewRequest) :
    runNew location clock request = prepareNew location request >>= fun prepared =>
      if request.dryRun then prepared.announce clock else prepared.create clock := by
  rw [runNew, prepareNew]
  simp only [bind_assoc, pure_bind]
  rfl

/-- A dry run that prepares this plan and these values ends with the line for the title. -/
def Announces (plan : CreationPlan) (settings : DateTimeSettings) (moment : Moment)
    (titleValues : PromptValues) (title : Text) : Prop :=
  ∀ (location : VaultLocation) (clock : Instant) (request : NewRequest) (workspace : Workspace)
    (noteValues : PromptValues) (before prepared : Console),
    request.dryRun = true → moment = Moment.ofClock clock → workspace.formats = settings →
    (prepareNew location request).Ends before (.ok ⟨workspace, plan, titleValues, noteValues⟩)
      prepared →
    EndsSaying (runNew location clock request) before prepared (dryRunLine plan.folder title)

theorem announces_of_filename (h : plan.filename settings moment titleValues = .ok title) :
    Announces plan settings moment titleValues title := by
  rintro location clock request workspace noteValues before prepared hdry rfl rfl hprepared
  rw [runNew_eq]
  refine EndsSaying.bind ?_ hprepared
  rw [if_pos hdry, PreparedNote.announce]
  dsimp only
  rw [h, ofExcept, pure_bind]
  exact endsSaying_printLine _ prepared

end CommandAction

namespace Vault

variable [LocalZone] {vault : Vault} {before after : Session} {note : CreatedNote}

/-- One title for a note and all that is said of it: its text, its name, and the line of a dry
run.  Only the name is another one when the title is empty. -/
structure TitlesNote (vault : Vault) (plan : CreationPlan) (settings : DateTimeSettings)
    (moment : Moment) (titleValues noteValues : PromptValues) (note : CreatedNote)
    (after : Session) (title : Text) : Prop where
  rendered : plan.filename settings moment titleValues = .ok title
  filename : note.filename = noteName title
  filename_eq_iff : note.filename = title ↔ title ≠ []
  inserted : ∃ text content, plan.promptedText moment noteValues = .ok text ∧
    InsertsTitle title text content ∧
    vault.nodeIn after note.path = some (.file (.text content))
  announced : CommandAction.Announces plan settings moment titleValues title
  shown : plan.folder.IsWords ∨ title.IsWords →
    Styling.refusal? (CommandAction.dryRunLine plan.folder title) = none

/-- A note that is created under the first name that is tried. -/
theorem exists_titlesNote_of_createPlanned
    (h : (vault.createPlanned plan settings moment titleValues noteValues).Gives before note after)
    (hfirst : note.conflictResolved = false) :
    ∃ title, vault.TitlesNote plan settings moment titleValues noteValues note after title := by
  obtain ⟨title, text, content, htitle, htext, hinserts, hnode, hname⟩ :=
    exists_title_of_createPlanned h
  exact ⟨title, {
    rendered := htitle
    filename := hname.1 hfirst
    filename_eq_iff := by rw [hname.1 hfirst, noteName_eq_self_iff]
    inserted := ⟨text, content, htext, hinserts, hnode⟩
    announced := CommandAction.announces_of_filename htitle
    shown := CommandAction.refusal?_dryRunLine }⟩

end Vault

end

/-! ### A note of the diary -/

section

attribute [local instance] LocalZone.utc Markup.styling

namespace CommandAction

/-- The settings of the diary with one template, for notes that start from a file. -/
def diarySettings (pattern : Text) : Text :=
  "\x7b\"templates\": [\x7b\"id\": \"day\", \"name\": \"Day\", \"folder\": \"/\", ".toList ++
    "\"file_template\": \"Start.md\", \"title_pattern\": \"".toList ++ pattern ++
    "\"\x7d]\x7d".toList

def diaryLocation : VaultLocation := ⟨diary.root, ⟨['/'], ["vault".toList, settingsFileName]⟩⟩

/-- The diary with its settings, and nobody to type. -/
def diaryConsole (pattern content : Text) : Console where
  session := { guestSession content with
    tree := (guestSession content).tree.set ["vault".toList, settingsFileName]
      (.file (.text (diarySettings pattern))) }
  input := []
  output := []

/-- What the settings of the diary are read as. -/
def diaryWorkspace (pattern : Text) : Workspace where
  vault := diary
  settings := { Settings.default with
    templates := [{ guestTemplate with titlePattern := pattern }] }
  formats := .default

/-- A dry run without questions. -/
def diaryRequest (assignments : List Text) : NewRequest where
  template := "Day".toList
  folder := none
  assignments := assignments
  noInput := true
  dryRun := true

/-- What a dry run says, when nothing is said before and the folder is one of words. -/
theorem Announces.exists_output (h : Announces plan .default dayMoment titleValues title)
    (pattern content : Text) (assignments : List Text) (noteValues : PromptValues)
    (hprepared : Prod.map id Console.output
      ((prepareNew diaryLocation (diaryRequest assignments)).run.run
        (diaryConsole pattern content)) =
      (.ok ⟨diaryWorkspace pattern, plan, titleValues, noteValues⟩, []))
    (hfolder : plan.folder.IsWords) :
    ∃ after, (runNew diaryLocation dayMoment.clock (diaryRequest assignments)).Ends
        (diaryConsole pattern content) (.ok ()) after ∧
      after.output = [.line (dryRunLine plan.folder title)] := by
  obtain ⟨prepared, hends, houtput⟩ := exists_ends_of_run hprepared
  have hsaying := h diaryLocation dayMoment.clock (diaryRequest assignments)
    (diaryWorkspace pattern) noteValues (diaryConsole pattern content) prepared rfl rfl rfl hends
  rw [EndsSaying, refusal?_dryRunLine (.inl hfolder)] at hsaying
  refine ⟨_, hsaying, ?_⟩
  rw [Console.taking, houtput]
  rfl

end CommandAction

open CommandAction

/-- A note with a title: the name, the text and the line of a dry run agree. -/
theorem titlesNote_of_greeting :
    ∃ note after title,
      (diary.createPlanned (guestPlan greeting) .default dayMoment []
        [(promptId 1, "Bob".toList)]).Gives (diaryConsole "Note".toList greeting).session note
        after ∧
      note.conflictResolved = false ∧
      diary.TitlesNote (guestPlan greeting) .default dayMoment [] [(promptId 1, "Bob".toList)]
        note after title ∧
      note.filename = "Note".toList ∧ title = "Note".toList ∧
      diary.nodeIn after note.path = some (.file (.text "Note for Bob".toList)) ∧
      ∃ shown, (runNew diaryLocation dayMoment.clock (diaryRequest ["X=Bob".toList])).Ends
          (diaryConsole "Note".toList greeting) (.ok ()) shown ∧
        shown.output = [.line "DRY RUN: would create / -> Note.md".toList] := by
  have hrender : (guestPlan greeting).title .final .default dayMoment [] = .ok "Note".toList := by
    have hshown : renderTitle .final ⟨.default, dayMoment.now, none, .filename⟩ [] []
        "Note".toList = .ok "Note".toList := by
      rw [renderTitle, titlePieces_nil]
      decide +kernel
    exact hshown
  have htext : (guestPlan greeting).noteText (some (cleanFilename "Note".toList)) .default
      dayMoment [(promptId 1, "Bob".toList)] = .ok "Note for Bob".toList := by decide +kernel
  have hnote : (diary.createNote vaultRoot (cleanFilename "Note".toList)
      "Note for Bob".toList).Gives (diaryConsole "Note".toList greeting).session
      ⟨"Note.md".toList, "Note".toList, false⟩ _ := gives_of_fst_eq (by decide +kernel)
  have hcreated := Vault.gives_createPlanned hrender htext hnote
  obtain ⟨title, htitles⟩ := Vault.exists_titlesNote_of_createPlanned hcreated rfl
  obtain rfl : title = "Note".toList := by
    have hrendered := htitles.rendered
    rw [CreationPlan.filename, hrender] at hrendered
    exact (Except.ok.inj hrendered).symm.trans (by decide +kernel)
  obtain ⟨shown, hends, houtput⟩ := htitles.announced.exists_output "Note".toList greeting
    ["X=Bob".toList] [(promptId 1, "Bob".toList)] (by decide +kernel) (by decide)
  refine ⟨_, _, _, hcreated, rfl, htitles, rfl, rfl, ?_, shown, hends, ?_⟩
  · obtain ⟨⟨middle, hwritten⟩, -⟩ := Vault.exists_create_of_createNote hnote
    exact Vault.nodeIn_of_create hwritten
  · rw [houtput]
    decide +kernel

/-- A text that is nothing but the title. -/
def onlyTitle : Text := "\x7b\x7btitle\x7d\x7d".toList

/-- A title that leaves nothing for the name of a file. -/
def questionPlan : CreationPlan :=
  { guestPlan onlyTitle with
    template := { guestTemplate with titlePattern := ['?'] }
    notePrompts := [] }

/-- The note has a name, but the text has no title and the dry run announces none. -/
theorem untitled_of_questionPlan :
    ∃ note after shown,
      (diary.createPlanned questionPlan .default dayMoment [] []).Gives
        (diaryConsole ['?'] onlyTitle).session note after ∧
      note.conflictResolved = false ∧ note.filename = "Untitled".toList ∧
      questionPlan.promptedText dayMoment [] = .ok onlyTitle ∧
      diary.nodeIn after note.path = some (.file (.text [])) ∧
      (runNew diaryLocation dayMoment.clock (diaryRequest [])).Ends
        (diaryConsole ['?'] onlyTitle) (.ok ()) shown ∧
      shown.output = [.line "DRY RUN: would create / -> .md".toList] := by
  have hrender : questionPlan.title .final .default dayMoment [] = .ok ['?'] := by
    have hshown : renderTitle .final ⟨.default, dayMoment.now, none, .filename⟩ [] [] ['?'] =
        .ok ['?'] := by
      rw [renderTitle, titlePieces_nil]
      decide +kernel
    exact hshown
  have hname : questionPlan.filename .default dayMoment [] = .ok [] := by
    rw [CreationPlan.filename, hrender]
    decide
  have htext : questionPlan.noteText (some (cleanFilename ['?'])) .default dayMoment [] =
      .ok [] := by decide +kernel
  have hnote : (diary.createNote vaultRoot (cleanFilename ['?']) []).Gives
      (diaryConsole ['?'] onlyTitle).session ⟨"Untitled.md".toList, "Untitled".toList, false⟩ _ :=
    gives_of_fst_eq (by decide +kernel)
  obtain ⟨⟨middle, hwritten⟩, -⟩ := Vault.exists_create_of_createNote hnote
  obtain ⟨shown, hends, houtput⟩ := (announces_of_filename hname).exists_output ['?'] onlyTitle
    [] [] (by decide +kernel) (by decide)
  refine ⟨_, _, shown, Vault.gives_createPlanned hrender htext hnote, rfl, rfl, ?_,
    Vault.nodeIn_of_create hwritten, hends, ?_⟩
  · decide +kernel
  · rw [houtput]
    decide +kernel

end

end NoteTemplate
