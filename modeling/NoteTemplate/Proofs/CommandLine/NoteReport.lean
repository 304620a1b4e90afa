import NoteTemplate.CommandLine.Commands
import NoteTemplate.Proofs.CommandLine.Answering
import NoteTemplate.Proofs.Creation.FilledNote

/-!
# What becomes of one note

Filling a note without questions comes down to a report that is found out from the disk and the
working folder alone: the note is filled, or it has no prompts, or there is a reason why it
cannot be filled.  A failure is reported on a line of its own, and the command goes on.  Two things
stop it: a line that the console refuses, and a moment that the calendar does not have, which is
not caught.  A note whose new text no file can hold is empty afterwards.
-/

namespace NoteTemplate

open NoteTemplate.Action (Gives Fails)

/-- The reason that is reported for what stops the work on a note, if it is reported. -/
def CommandAction.reason? : Stop → Option Text
  | .failure cause => if cause.isExplained then some cause.message else none
  | .misuse (.badValue reason _) => some reason
  | _ => none

/-- What becomes of a note that is to be filled. -/
inductive NoteReport where
  /-- The note is written if its text changes. -/
  | filled (path : Text) (change : Option (List Text × Text))
  | skipped (path : Text)
  /-- The note is left empty if its new text cannot be written. -/
  | failed (shown reason : Text) (emptied : Option (List Text))
  /-- A moment is needed that the calendar does not have. -/
  | overflow
deriving DecidableEq

namespace NoteReport

/-- How the note is counted. -/
def outcome : NoteReport → CommandAction.FillOutcome
  | .filled _ _ => .filled
  | .skipped _ => .skipped
  | .failed _ _ _ | .overflow => .failed

/-- The file that is written, with its new text. -/
def change? : NoteReport → Option (List Text × Text)
  | .filled _ change => change
  | .failed _ _ emptied => emptied.map fun spot => (spot, [])
  | .skipped _ | .overflow => none

/-- The disk afterwards. -/
def write (tree : DiskTree) (report : NoteReport) : DiskTree :=
  match report.change? with
  | some (spot, text) => tree.set spot (.file (.text text))
  | none => tree

theorem write_of_change?_eq_none {report : NoteReport} (h : report.change? = none)
    (tree : DiskTree) : report.write tree = tree := by
  rw [write, h]

/-- What stops the command at the note. -/
def stop? [Styling] : NoteReport → Option Stop
  | .filled _ _ | .skipped _ => none
  | .failed shown reason _ =>
    (Styling.refusal? (CommandAction.failedLine shown reason)).map fun why =>
      .failure (.unprintable why)
  | .overflow => some (.failure (.calendar .dateOverflow))

/-- How the work on the note ends. -/
def result [Styling] (report : NoteReport) : Except Stop CommandAction.FillOutcome :=
  match report.stop? with
  | some stop => .error stop
  | none => .ok report.outcome

/-- The report about a note when the work on it has stopped. -/
def ofStop (shown : Text) (stop : Stop) : NoteReport :=
  match CommandAction.reason? stop with
  | some reason => .failed shown reason none
  | none => .overflow

/-- What stops the command is not reported on a line. -/
theorem reason?_of_stop? [Styling] {report : NoteReport} {stop : Stop}
    (h : report.stop? = some stop) : CommandAction.reason? stop = none := by
  cases report with
  | filled path change => cases h
  | skipped path => cases h
  | failed shown reason emptied =>
    obtain ⟨why, -, rfl⟩ := Option.map_eq_some_iff.1 h
    rfl
  | overflow =>
    obtain rfl := Option.some.inj h
    rfl

end NoteReport

namespace Vault

instance (tree : DiskTree) (here : List Text) (path : DiskPath) :
    Decidable (tree.IsTooLong here path) := by
  unfold DiskTree.IsTooLong; infer_instance

/-- The path in the vault of a note that is given by a path on disk or in the vault, or why there
is none. -/
def pathNamed (vault : Vault) (tree : DiskTree) (here : List Text) (file : Text) :
    Except Stop Text :=
  let path := DiskPath.ofText file
  let root := vault.root.resolve here
  if tree.IsTooLong here path then .error (.failure (.system .nameTooLong path.text))
  else if (tree.node? here path).isSome then
    if root.isPrefixOf (path.resolve here) then
      .ok (normalizePath (Text.join ['/'] ((path.resolve here).drop root.length)))
    else
      .error (.misuse (.badValue (file ++ " is outside the vault".toList) (some "FILES".toList)))
  else .ok (normalizePath file)

/-- The place of a note and its text with line feeds, or why it cannot be read. -/
def noteAt (vault : Vault) (tree : DiskTree) (here : List Text) (path : Text) :
    Except Failure (List Text × Text) :=
  let target := vault.diskPath path
  if target.hasNull then .error .nullInPath
  else if (vault.root.resolve here).isPrefixOf (target.resolve here) then
    match tree.locate here target with
    | .ok (.found spot (.file content)) =>
      match content.decode with
      | .ok text => .ok (spot, unixLines text)
      | .error fault => .error (.notUtf8 fault)
    | .ok (.found _ .folder) => .error (.system .isFolder target.text)
    | .ok (.vacant _) => .error (.system .notFound target.text)
    | .error error => .error (.system error target.text)
  else .error (.escapesVault path)

/-- What becomes of a note at a place when its text is to be replaced. -/
def rewriteReport (tree : DiskTree) (path : Text) (spot : List Text) (text filled : Text) :
    NoteReport :=
  if filled = text then .filled path none
  else if tree.takesText filled then .filled path (some (spot, filled))
  else .failed path Failure.unwritable.message (some spot)

section

variable [LocalZone]

/-- What becomes of a note at a path of the vault. -/
def reportAt (vault : Vault) (clock : Instant) (named : Keyed Text) (tree : DiskTree)
    (here : List Text) (path : Text) : NoteReport :=
  match vault.noteAt tree here path with
  | .error cause => .ofStop path (.failure cause)
  | .ok (spot, text) =>
    match fillResult clock named 0 text with
    | .noPrompts => .skipped path
    | .refused stop => .ofStop path stop
    | .filled filled => rewriteReport tree path spot text filled

/-- What becomes of a note, wherever it is. -/
def report (vault : Vault) (clock : Instant) (named : Keyed Text) (tree : DiskTree)
    (here : List Text) (file : Text) : NoteReport :=
  match vault.pathNamed tree here file with
  | .error stop => .ofStop file stop
  | .ok path => vault.reportAt clock named tree here path

end

variable {vault : Vault} {clock : Instant} {named : Keyed Text} {tree : DiskTree}
  {here spot : List Text} {path file text reason : Text} {session : Session} {cause : Failure}

/-! ### Reading -/

theorem noteAt_of_admits (h : vault.Admits here path) :
    vault.noteAt tree here path =
      match tree.locate here (vault.diskPath path) with
      | .ok (.found spot (.file content)) =>
        match content.decode with
        | .ok text => .ok (spot, unixLines text)
        | .error fault => .error (.notUtf8 fault)
      | .ok (.found _ .folder) => .error (.system .isFolder (vault.diskPath path).text)
      | .ok (.vacant _) => .error (.system .notFound (vault.diskPath path).text)
      | .error error => .error (.system error (vault.diskPath path).text) := by
  rw [noteAt, h.noNull]
  exact if_pos h.inside

theorem noteAt_of_not_admits (h : ¬vault.Admits here path) :
    vault.noteAt tree here path =
      .error (if (vault.diskPath path).hasNull then .nullInPath else .escapesVault path) := by
  rw [noteAt]
  by_cases hnull : (vault.diskPath path).hasNull = true
  · rw [if_pos hnull, if_pos hnull]
  · rw [if_neg hnull, if_neg hnull, if_neg]
    intro hinside
    exact h ⟨Bool.eq_false_iff.2 hnull, hinside⟩

theorem noteAt_eq_ok_iff :
    vault.noteAt tree here path = .ok (spot, text) ↔
      vault.Admits here path ∧ ∃ content stored,
        tree.locate here (vault.diskPath path) = .ok (.found spot (.file content)) ∧
          content.decode = .ok stored ∧ text = unixLines stored := by
  by_cases hadmits : vault.Admits here path
  · rw [noteAt_of_admits hadmits, and_iff_right hadmits]
    constructor
    · intro h
      split at h
      · next content hlocate =>
        split at h
        · next stored hstored =>
          obtain ⟨rfl, rfl⟩ := Prod.mk.inj (Except.ok.inj h)
          exact ⟨content, stored, hlocate, hstored, rfl⟩
        · cases h
      · cases h
      · cases h
      · cases h
    · rintro ⟨content, stored, hlocate, hstored, rfl⟩
      rw [hlocate]
      dsimp only
      rw [hstored]
  · rw [noteAt_of_not_admits hadmits]
    constructor
    · intro h
      cases h
    · rintro ⟨h, -⟩
      exact absurd h hadmits

theorem gives_read_of_noteAt (h : vault.noteAt session.tree session.here path = .ok (spot, text)) :
    (vault.read path).Gives session text session := by
  obtain ⟨hadmits, content, stored, hlocate, hstored, rfl⟩ := noteAt_eq_ok_iff.1 h
  refine Action.gives_bind_iff.2 ⟨_, _, hadmits.gives_toDisk, ?_⟩
  refine Action.gives_bind_iff.2
    ⟨_, _, Action.gives_locate_iff.2 ⟨hadmits.noNull, rfl, rfl⟩, ?_⟩
  rw [hlocate]
  dsimp only
  rw [hstored]
  exact Action.gives_pure_iff.2 ⟨rfl, rfl⟩

theorem fails_toDisk_of_not_admits (h : ¬vault.Admits session.here path) :
    (vault.toDisk path).Fails session
      (if (vault.diskPath path).hasNull then .nullInPath else .escapesVault path) session := by
  rw [toDisk]
  by_cases hnull : (vault.diskPath path).hasNull = true
  · rw [if_pos hnull]
    exact (Action.fails_checkPath hnull).bind _
  · have hclear : (vault.diskPath path).hasNull = false := Bool.eq_false_iff.2 hnull
    rw [if_neg hnull]
    have hcheck : (Action.checkPath (vault.diskPath path)).Gives session ⟨⟩ session :=
      Action.gives_checkPath_iff.2 ⟨hclear, rfl⟩
    apply hcheck.bind_fails
    apply (Action.gives_get session).bind_fails
    rw [if_neg fun hinside => h ⟨hclear, hinside⟩]
    exact Action.fails_throw _ _

/-- What keeps a note from being read is explained. -/
theorem fails_read_of_noteAt (h : vault.noteAt session.tree session.here path = .error cause) :
    (vault.read path).Fails session cause session ∧ cause.isExplained = true := by
  by_cases hadmits : vault.Admits session.here path
  · have hthrow {found : Except SystemError Location}
        (hfound : session.tree.locate session.here (vault.diskPath path) = found)
        {next : Except SystemError Location → Action Text}
        (hnext : next found = throw cause) :
        (Action.locate (vault.diskPath path) >>= next).Fails session cause session := by
      apply (Action.gives_locate_iff.2 ⟨hadmits.noNull, hfound.symm, rfl⟩).bind_fails
      rw [hnext]
      exact Action.fails_throw _ _
    have hexplained : (Action.readText (vault.diskPath path)).Fails session cause session ∧
        cause.isExplained = true := by
      rw [noteAt_of_admits hadmits] at h
      rw [Action.readText]
      cases hlocate : session.tree.locate session.here (vault.diskPath path) with
      | error error =>
        rw [hlocate] at h
        obtain rfl := Except.error.inj h
        exact ⟨hthrow hlocate rfl, rfl⟩
      | ok location =>
        rw [hlocate] at h
        cases location with
        | vacant spot =>
          obtain rfl := Except.error.inj h
          exact ⟨hthrow hlocate rfl, rfl⟩
        | found spot node =>
          cases node with
          | folder =>
            obtain rfl := Except.error.inj h
            exact ⟨hthrow hlocate rfl, rfl⟩
          | file content =>
            cases hdecode : content.decode with
            | ok stored => simp [hdecode] at h
            | error fault =>
              obtain rfl : Failure.notUtf8 fault = cause := by simpa [hdecode] using h
              exact ⟨hthrow hlocate (by simp only [hdecode]), rfl⟩
    exact ⟨hadmits.gives_toDisk.bind_fails hexplained.1, hexplained.2⟩
  · rw [noteAt_of_not_admits hadmits] at h
    obtain rfl := Except.error.inj h
    refine ⟨(fails_toDisk_of_not_admits hadmits).bind _, ?_⟩
    split <;> rfl

section

variable {place : DiskPath} (hnull : place.hasNull = false)
include hnull

theorem gives_ofDisk
    (h : (vault.root.resolve session.here).isPrefixOf (place.resolve session.here) = true) :
    (vault.ofDisk place).Gives session (normalizePath (Text.join ['/']
      ((place.resolve session.here).drop (vault.root.resolve session.here).length))) session := by
  refine Action.gives_bind_iff.2 ⟨⟨⟩, _, Action.gives_checkPath_iff.2 ⟨hnull, rfl⟩, ?_⟩
  refine Action.gives_bind_iff.2 ⟨_, _, Action.gives_get session, ?_⟩
  rw [if_pos h]
  exact Action.gives_pure_iff.2 ⟨rfl, rfl⟩

theorem fails_ofDisk
    (h : ¬(vault.root.resolve session.here).isPrefixOf (place.resolve session.here) = true) :
    (vault.ofDisk place).Fails session
      (.outsideVault ('/' :: Text.join ['/'] (place.resolve session.here))
        ('/' :: Text.join ['/'] (vault.root.resolve session.here))) session := by
  have hcheck : (Action.checkPath place).Gives session ⟨⟩ session :=
    Action.gives_checkPath_iff.2 ⟨hnull, rfl⟩
  apply hcheck.bind_fails
  apply (Action.gives_get session).bind_fails
  rw [if_neg h]
  exact Action.fails_throw _ _

end

/-! ### Filling -/

/-- The prompts of a note, and the session with the counter moved on. -/
theorem gives_promptsOfNote
    (h : vault.noteAt session.tree session.here path = .ok (spot, text)) :
    (vault.promptsOfNote path).Gives session (extractNotePrompts session.nextPrompt text).1
      { session with nextPrompt := (extractNotePrompts session.nextPrompt text).2 } :=
  Action.gives_bind_iff.2 ⟨_, _, gives_read_of_noteAt h, Action.gives_numbered_iff.2 ⟨rfl, rfl⟩⟩

section

variable [LocalZone] (session) {prompts : List Prompt} {moment : Moment}
  {values shown : PromptValues}
  (h : vault.noteAt session.tree session.here path = .ok (spot, text))
include h

/-- A note that can be read is written if it changes. -/
theorem gives_fillPrompts (hshown : shownValues moment values prompts = .ok shown)
    (htakes : fillNote prompts shown text ≠ text →
      session.tree.takesText (fillNote prompts shown text) = true) :
    (vault.fillPrompts path prompts moment values).Gives session (fillNote prompts shown text)
      { session with
        tree := if fillNote prompts shown text = text then session.tree
          else session.tree.set spot (.file (.text (fillNote prompts shown text))) } := by
  obtain ⟨hadmits, content, stored, hlocate, hstored, htext⟩ := noteAt_eq_ok_iff.1 h
  refine Action.gives_bind_iff.2 ⟨_, _, gives_read_of_noteAt h, ?_⟩
  refine Action.gives_bind_iff.2 ⟨_, _, Action.gives_ofExcept_iff.2 ⟨hshown, rfl⟩, ?_⟩
  dsimp only
  by_cases hsame : fillNote prompts shown text = text
  · rw [if_neg (not_not.2 hsame), if_pos hsame]
    exact Action.gives_pure_iff.2 ⟨rfl, rfl⟩
  · rw [if_pos hsame, if_neg hsame]
    refine Action.gives_bind_iff.2 ⟨⟨⟩, _, ?_, Action.gives_pure_iff.2 ⟨rfl, rfl⟩⟩
    exact gives_modifyNote_iff.2 ⟨hadmits, htakes hsame, spot, content, hlocate, rfl⟩

theorem fails_fillPrompts (hshown : shownValues moment values prompts = .error cause) :
    (vault.fillPrompts path prompts moment values).Fails session cause session := by
  apply (gives_read_of_noteAt h).bind_fails
  rw [hshown]
  exact (Action.fails_throw cause session).bind _

/-- A text that no file can hold is found out when the note is open, and then it is empty. -/
theorem fails_fillPrompts_of_unwritable (hshown : shownValues moment values prompts = .ok shown)
    (hchanged : fillNote prompts shown text ≠ text)
    (htakes : session.tree.takesText (fillNote prompts shown text) = false) :
    (vault.fillPrompts path prompts moment values).Fails session .unwritable
      { session with tree := session.tree.set spot (.file (.text [])) } := by
  obtain ⟨hadmits, content, stored, hlocate, hstored, htext⟩ := noteAt_eq_ok_iff.1 h
  apply (gives_read_of_noteAt h).bind_fails
  apply (Action.gives_ofExcept_iff.2 ⟨hshown, rfl⟩ : Gives _ session _ _).bind_fails
  dsimp only
  rw [if_pos hchanged]
  refine Fails.bind ?_ _
  apply hadmits.gives_toDisk.bind_fails
  apply (Action.gives_node?_of_found hadmits.noNull hlocate).bind_fails
  have hfound : (Action.locate (vault.diskPath path)).Gives session
      (.ok (.found spot (.file content))) session :=
    Action.gives_locate_iff.2 ⟨hadmits.noNull, hlocate.symm, rfl⟩
  exact hfound.bind_fails (Action.fails_fillFile htakes)

end

end Vault

/-! ### One note -/

namespace CommandAction

variable [Styling] {vault : Vault} {clock : Instant} {named : Keyed Text}
  {path file shown reason : Text} {before middle after : Console} {stop : Stop}
  {action : CommandAction FillOutcome} {outcome : FillOutcome} {report : NoteReport}
  {emptied : Option (List Text)}

theorem orReport_eq (shown : Text) (action : CommandAction FillOutcome) :
    orReport shown action = tryCatch action fun stop =>
      match reason? stop with
      | some reason => do
        printLine (failedLine shown reason)
        return .failed
      | none => throw stop := rfl

theorem Ends.orReport (h : action.Ends before (.ok outcome) after) (shown : Text) :
    (orReport shown action).Ends before (.ok outcome) after := h.tryCatch_ok _

theorem Ends.orReport_stop (h : action.Ends before (.error stop) middle)
    (hreason : reason? stop = none) (shown : Text) :
    (CommandAction.orReport shown action).Ends before (.error stop) middle := by
  rw [orReport_eq]
  apply h.tryCatch_stop
  rw [hreason]
  exact ends_throw _ _

/-- The work on a note ends as a report says. -/
def EndsAs (action : CommandAction FillOutcome) (before : Console) (report : NoteReport) : Prop :=
  ∃ after, action.Ends before report.result after ∧
    after.session.tree = report.write before.session.tree ∧
      after.session.here = before.session.here

/-- What stops the work with a reason is reported, if the console takes the line. -/
theorem Ends.endsAs_failed (h : action.Ends before (.error stop) middle)
    (hreason : reason? stop = some reason)
    (htree : middle.session.tree =
      (NoteReport.failed shown reason emptied).write before.session.tree)
    (hhere : middle.session.here = before.session.here) :
    (CommandAction.orReport shown action).EndsAs before (.failed shown reason emptied) := by
  rw [orReport_eq, EndsAs, NoteReport.result, NoteReport.stop?]
  cases hrefusal : Styling.refusal? (failedLine shown reason) with
  | none =>
    refine ⟨middle.taking [.line (failedLine shown reason)], h.tryCatch_stop ?_, htree, hhere⟩
    rw [hreason]
    exact (ends_printLine hrefusal middle).bind (ends_pure _ _)
  | some why =>
    refine ⟨middle, h.tryCatch_stop ?_, htree, hhere⟩
    have hline : (Message.line (failedLine shown reason)).refusal? = some why := hrefusal
    rw [hreason]
    exact (ends_say_of_refused hline middle).bind_stop _

/-- What stops the work on a note is reported or it stops the command too. -/
theorem Ends.endsAs_ofStop (h : action.Ends before (.error stop) middle)
    (hcaught : reason? stop = none → stop = .failure (.calendar .dateOverflow))
    (hsame : before.session.SameDisk middle.session) (shown : Text) :
    (CommandAction.orReport shown action).EndsAs before (.ofStop shown stop) := by
  rw [NoteReport.ofStop]
  cases hreason : reason? stop with
  | some reason => exact h.endsAs_failed hreason hsame.tree hsame.here
  | none =>
    obtain rfl := hcaught hreason
    exact ⟨middle, h.orReport_stop rfl shown, hsame.tree, hsame.here⟩

/-- What comes first changes nothing. -/
theorem Ends.bind_endsAs {α : Type} {first : CommandAction α} {next : α → CommandAction FillOutcome}
    {value : α} (hfirst : first.Ends before (.ok value) before)
    (h : (next value).EndsAs before report) : (first >>= next).EndsAs before report := by
  obtain ⟨after, hends, htree, hhere⟩ := h
  exact ⟨after, hfirst.bind hends, htree, hhere⟩

theorem EndsAs.orReport (h : action.EndsAs before report) (shown : Text) :
    (CommandAction.orReport shown action).EndsAs before report := by
  obtain ⟨after, hends, hafter⟩ := h
  refine ⟨after, ?_, hafter⟩
  rw [NoteReport.result] at hends ⊢
  cases hstop : report.stop? with
  | none =>
    rw [hstop] at hends
    exact hends.orReport shown
  | some stop =>
    rw [hstop] at hends
    exact hends.orReport_stop (NoteReport.reason?_of_stop? hstop) shown

omit [Styling] in
/-- What keeps a value from being shown is reported, but for the end of the calendar. -/
theorem caught_of_shownValues [LocalZone] {prompts : List Prompt} {moment : Moment}
    {values : PromptValues} {cause : Failure} (hids : (prompts.map Prompt.id).Nodup)
    (htext : ∀ prompt ∈ prompts, prompt.IsText)
    (h : shownValues moment values prompts = .error cause) :
    reason? (.failure cause) = none → Stop.failure cause = .failure (.calendar .dateOverflow) := by
  have hall : OnlyFails Failure.IsCalendarEnd
      (prompts.mapM fun prompt => prompt.showGiven moment (values.get? prompt.id)) := by
    apply onlyFails_mapM
    intro prompt hprompt
    cases values.get? prompt.id with
    | none => exact onlyFails_ok _
    | some value => exact ((htext prompt hprompt).onlyFails_showValue _ _ value).map some
  have hend : cause.IsCalendarEnd := by
    have hcases := shownValues_cases hids moment values
    split at hcases
    · obtain ⟨shown, hshown, -⟩ := hcases
      rw [h] at hshown
      cases hshown
    · next failure hfailure =>
      rw [h] at hcases
      obtain rfl := Except.error.inj hcases
      exact hall _ hfailure
  intro hreason
  have hunexplained : cause.isExplained = false := by
    rw [Bool.eq_false_iff]
    intro hexplained
    rw [reason?, if_pos hexplained] at hreason
    cases hreason
  rw [hend.eq_dateOverflow hunexplained]

/-- The prompts of a text that is met now. -/
def asked (before : Console) (text : Text) : List Prompt :=
  (extractNotePrompts before.session.nextPrompt text).1

/-- The console when the prompts of a text have their numbers. -/
def afterPrompts (before : Console) (text : Text) : Console :=
  { before with
    session := { before.session with
      nextPrompt := (extractNotePrompts before.session.nextPrompt text).2 } }

/-- The console when the path of a note with prompts is shown. -/
def afterPath (before : Console) (text path : Text) : Console :=
  (afterPrompts before text).taking [.line (styled "bold" (Styling.escape path))]

theorem sameDisk_afterPath (before : Console) (text path : Text) :
    before.session.SameDisk (afterPath before text path).session := ⟨rfl, rfl⟩

omit [Styling] in
theorem isText_of_mem_asked (before : Console) (text : Text) :
    ∀ prompt ∈ asked before text, prompt.IsText :=
  fun _ => Prompt.isText_of_mem_extractNotePrompts

section

variable {spot : List Text} {text : Text}
  (hnote : vault.noteAt before.session.tree before.session.here path = .ok (spot, text))
include hnote

omit [Styling] in
theorem ends_promptsOfNote :
    (onSession (vault.promptsOfNote path)).Ends before (.ok (asked before text))
      (afterPrompts before text) :=
  ends_onSession_of_gives (Vault.gives_promptsOfNote hnote)

variable [LocalZone]

/-- A note without prompts is skipped. -/
theorem endsAs_skipped (hempty : (asked before text).isEmpty = true) :
    (fillNoteAt vault clock named false path).EndsAs before (.skipped path) := by
  have hshown := Styling.refusal?_quoted path
    (by decide : Text.IsWords "No prompts, skipping: ".toList)
  have hends : (fillNoteAt vault clock named false path).Ends before (.ok .skipped)
      ((afterPrompts before text).taking
        [.line ("No prompts, skipping: ".toList ++ Styling.escape path)]) := by
    apply (ends_promptsOfNote hnote).bind
    rw [if_pos hempty]
    exact (ends_printLine hshown _).bind (ends_pure _ _)
  exact ⟨_, hends, rfl, rfl⟩

variable (hsome : ¬(asked before text).isEmpty = true)
include hsome

/-- The prompts are met and the path is shown; then the values are collected. -/
theorem ends_fillNoteAt {result : Except Stop FillOutcome}
    (h : Ends (do
      let values ← collectValues (asked before text) named false
      let _ ← onSession (vault.fillPrompts path (asked before text) (Moment.ofClock clock) values)
      printLine ("Filled: ".toList ++ Styling.escape path)
      return .filled) (afterPath before text path) result after) :
    (fillNoteAt vault clock named false path).Ends before result after := by
  have hshown := Styling.refusal?_styledQuoted path (by decide : "bold" ∈ ["bold", "dim", "red",
    "green"])
  apply (ends_promptsOfNote hnote).bind
  rw [if_neg hsome]
  exact (ends_printLine hshown _).bind h

/-- The values that are given do not suit. -/
theorem ends_fillNoteAt_refused {problem : Text} {problems : List Text}
    (hproblems : problemLines (asked before text) (valuesFromNames (asked before text) named) =
      problem :: problems) :
    (fillNoteAt vault clock named false path).Ends before
      (.error (.ofProblems (problem :: problems))) (afterPath before text path) := by
  apply ends_fillNoteAt hnote hsome
  have hvalues := ends_collectValues (isText_of_mem_asked before text) named
    (afterPath before text path)
  rw [hproblems] at hvalues
  exact hvalues.bind_stop _

variable (hsuits : problemLines (asked before text) (valuesFromNames (asked before text) named) =
  [])
include hsuits

/-- The values suit, so the note is filled with them. -/
theorem ends_fillNoteAt_suits {result : Except Stop FillOutcome}
    (h : Ends (do
      let _ ← onSession (vault.fillPrompts path (asked before text) (Moment.ofClock clock)
        (valuesFromNames (asked before text) named))
      printLine ("Filled: ".toList ++ Styling.escape path)
      return .filled) (afterPath before text path) result after) :
    (fillNoteAt vault clock named false path).Ends before result after := by
  apply ends_fillNoteAt hnote hsome
  have hvalues := ends_collectValues (isText_of_mem_asked before text) named
    (afterPath before text path)
  rw [hsuits] at hvalues
  exact hvalues.bind h

/-- What filling the prompts of the note fails with stops the work on it. -/
theorem ends_fillNoteAt_of_fails {cause : Failure} {session : Session}
    (hfails : (vault.fillPrompts path (asked before text) (Moment.ofClock clock)
      (valuesFromNames (asked before text) named)).Fails (afterPath before text path).session cause
      session) :
    (fillNoteAt vault clock named false path).Ends before (.error (.failure cause))
      { afterPath before text path with session := session } := by
  apply ends_fillNoteAt_suits hnote hsome hsuits
  exact (ends_onSession_of_fails hfails).bind_stop _

/-- The note is filled, and written if it changes and a file can hold it. -/
theorem endsAs_rewrite {values : PromptValues}
    (hvalues : shownValues (.ofClock clock) (valuesFromNames (asked before text) named)
      (asked before text) = .ok values) :
    (CommandAction.orReport path (fillNoteAt vault clock named false path)).EndsAs before
      (Vault.rewriteReport before.session.tree path spot text
        (fillNote (asked before text) values text)) := by
  have hshown := Styling.refusal?_quoted path (by decide : Text.IsWords "Filled: ".toList)
  have hfilled (htakes : fillNote (asked before text) values text ≠ text →
      before.session.tree.takesText (fillNote (asked before text) values text) = true) :=
    ends_fillNoteAt_suits hnote hsome hsuits
      ((ends_onSession_of_gives (Vault.gives_fillPrompts (afterPath before text path).session
        hnote hvalues htakes)).bind ((ends_printLine hshown _).bind (ends_pure _ _)))
  rw [Vault.rewriteReport]
  by_cases hsame : fillNote (asked before text) values text = text
  · rw [if_pos hsame]
    have hends := hfilled fun hchanged => absurd hsame hchanged
    rw [if_pos hsame] at hends
    exact ⟨_, hends.orReport path, rfl, rfl⟩
  · rw [if_neg hsame]
    cases htakes : before.session.tree.takesText (fillNote (asked before text) values text) with
    | true =>
      rw [if_pos rfl]
      have hends := hfilled fun _ => htakes
      rw [if_neg hsame] at hends
      exact ⟨_, hends.orReport path, rfl, rfl⟩
    | false =>
      rw [if_neg Bool.false_ne_true]
      have hfails := Vault.fails_fillPrompts_of_unwritable (afterPath before text path).session
        hnote hvalues hsame htakes
      exact (ends_fillNoteAt_of_fails hnote hsome hsuits hfails).endsAs_failed rfl rfl rfl

end

/-- What becomes of a note at a path of the vault is what its report says. -/
theorem endsAs_fillNoteAt [LocalZone] (before : Console) (path : Text) :
    (CommandAction.orReport path (fillNoteAt vault clock named false path)).EndsAs before
      (vault.reportAt clock named before.session.tree before.session.here path) := by
  rw [Vault.reportAt]
  cases hnote : vault.noteAt before.session.tree before.session.here path with
  | error cause =>
    obtain ⟨hread, hexplained⟩ := Vault.fails_read_of_noteAt hnote
    have hprompts : (vault.promptsOfNote path).Fails before.session cause before.session :=
      hread.bind _
    have hends : (fillNoteAt vault clock named false path).Ends before
        (.error (.failure cause)) before := (ends_onSession_of_fails hprompts).bind_stop _
    refine hends.endsAs_ofStop (fun hreason => ?_) (.refl _) path
    rw [reason?, if_pos hexplained] at hreason
    cases hreason
  | ok note =>
    obtain ⟨spot, text⟩ := note
    dsimp only
    rw [← fillResult_eq clock named before.session.nextPrompt text, fillResult, ← asked]
    by_cases hempty : (asked before text).isEmpty = true
    · rw [if_pos hempty]
      exact (endsAs_skipped hnote hempty).orReport path
    · rw [if_neg hempty, shownAnswers]
      cases hlines : problemLines (asked before text)
          (valuesFromNames (asked before text) named) with
      | cons problem problems =>
        refine (ends_fillNoteAt_refused hnote hempty hlines).endsAs_ofStop (fun hreason => ?_)
          (sameDisk_afterPath before text path) path
        cases hreason
      | nil =>
        dsimp only
        cases hvalues : shownValues (.ofClock clock) (valuesFromNames (asked before text) named)
            (asked before text) with
        | error cause =>
          have hcaught := caught_of_shownValues
            (isRow_extractNotePrompts before.session.nextPrompt text).ids
            (isText_of_mem_asked before text) hvalues
          have hfails := Vault.fails_fillPrompts (afterPath before text path).session hnote hvalues
          exact (ends_fillNoteAt_of_fails hnote hempty hlines hfails).endsAs_ofStop hcaught
            (sameDisk_afterPath before text path) path
        | ok values => exact endsAs_rewrite hnote hempty hlines hvalues

omit [Styling] in
theorem ends_notePathFor (vault : Vault) (before : Console) (file : Text) :
    (notePathFor vault file).Ends before
      (vault.pathNamed before.session.tree before.session.here file) before := by
  rw [Vault.pathNamed]
  by_cases htooLong : before.session.tree.IsTooLong before.session.here (DiskPath.ofText file)
  · rw [if_pos htooLong]
    exact (ends_onSession_of_fails (Action.fails_node? htooLong)).bind_stop _
  · rw [if_neg htooLong]
    have hnode : (onSession (Action.node? (DiskPath.ofText file))).Ends before
        (.ok (before.session.tree.node? before.session.here (DiskPath.ofText file))) before :=
      ends_onSession_of_gives (Action.gives_node?_iff.2 ⟨htooLong, rfl, rfl⟩)
    by_cases hsome : (before.session.tree.node? before.session.here
        (DiskPath.ofText file)).isSome = true
    · have hnull : (DiskPath.ofText file).hasNull = false := by
        obtain ⟨node, hfound⟩ := Option.isSome_iff_exists.1 hsome
        exact (DiskTree.exists_locate_of_node? hfound).1
      rw [if_pos hsome]
      apply hnode.bind
      rw [if_pos hsome]
      by_cases hinside : (vault.root.resolve before.session.here).isPrefixOf
          ((DiskPath.ofText file).resolve before.session.here) = true
      · rw [if_pos hinside]
        exact (ends_onSession_of_gives (Vault.gives_ofDisk hnull hinside)).tryCatch_ok _
      · rw [if_neg hinside]
        exact (ends_onSession_of_fails (Vault.fails_ofDisk hnull hinside)).tryCatch_stop
          (ends_throw _ _)
    · rw [if_neg hsome]
      apply hnode.bind
      rw [if_neg hsome]
      exact ends_pure _ _

omit [Styling] in
/-- What keeps an argument from naming a note is reported. -/
theorem reason?_ne_none_of_pathNamed {tree : DiskTree} {here : List Text}
    (h : vault.pathNamed tree here file = .error stop) : reason? stop ≠ none := by
  rw [Vault.pathNamed] at h
  split at h
  · obtain rfl := Except.error.inj h
    exact Option.some_ne_none _
  · split at h
    · split at h
      · cases h
      · obtain rfl := Except.error.inj h
        exact Option.some_ne_none _
    · cases h

/-- What becomes of a note is what its report says. -/
theorem endsAs_fillFile [LocalZone] (before : Console) (file : Text) :
    (fillFile vault clock named false file).EndsAs before
      (vault.report clock named before.session.tree before.session.here file) := by
  have hpath := ends_notePathFor vault before file
  rw [Vault.report]
  cases hnamed : vault.pathNamed before.session.tree before.session.here file with
  | error stop =>
    rw [hnamed] at hpath
    exact (hpath.bind_stop _).endsAs_ofStop
      (fun hreason => absurd hreason (reason?_ne_none_of_pathNamed hnamed)) (.refl _) file
  | ok path =>
    rw [hnamed] at hpath
    apply EndsAs.orReport
    exact hpath.bind_endsAs (endsAs_fillNoteAt before path)

end CommandAction

end NoteTemplate
