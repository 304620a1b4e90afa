import NoteTemplate.Proofs.CommandLine.NotesApart
import NoteTemplate.Proofs.Terminal.Escaped

/-!
# A run over many notes

The command that fills notes takes them one after the other.  A note that cannot be filled is
reported and counted, and the next one is filled; a note that is not filled is left as it was met,
or it is empty when its new text could not be written.  Two things stop the command before the
summary: a report that the console refuses and a moment that the calendar does not have.  Then the
notes behind are not looked at.
-/

namespace NoteTemplate

namespace CommandAction

/-- A note that is not filled is not changed, neither in its turn nor later; or it was opened to be
written, and is empty from then on because no file can hold its new text. -/
inductive LeavesNote [LocalZone] (vault : Vault) (clock : Instant) (named : Keyed Text)
    (before middle after : Console) (file : Text) : Prop where
  | kept (tree_eq : middle.session.tree = before.session.tree)
      (stays : ∀ spot, vault.noteNamed? before.session.tree before.session.here file = some spot →
        after.session.tree.get? spot = before.session.tree.get? spot)
  | emptied {path text filled : Text} {spot : List Text}
      (leads : vault.pathNamed before.session.tree before.session.here file = .ok path)
      (found : vault.noteAt before.session.tree before.session.here path = .ok (spot, text))
      (fills : fillResult clock named 0 text = .filled filled)
      (unwritable : before.session.tree.takesText filled = false)
      (tree_eq : middle.session.tree = before.session.tree.set spot (.file (.text [])))
      (stays : after.session.tree.get? spot = some (.file (.text [])))

/-- The notes are filled one after the other, without questions; `after` is the console at the end
of all turns. -/
inductive FillSteps [LocalZone] [Styling] (vault : Vault) (clock : Instant) (named : Keyed Text) :
    Console → List Text → List FillOutcome → Console → Prop
  | nil {after : Console} : FillSteps vault clock named after [] [] after
  | cons {before middle after : Console} {file : Text} {files : List Text} {outcome : FillOutcome}
      {outcomes : List FillOutcome}
      (fills : (fillFile vault clock named false file).Ends before (.ok outcome) middle)
      (leaves : outcome ≠ .filled → LeavesNote vault clock named before middle after file)
      (behind : FillSteps vault clock named middle files outcomes after) :
      FillSteps vault clock named before (file :: files) (outcome :: outcomes) after

variable [LocalZone] [Styling] {vault : Vault} {clock : Instant} {named : Keyed Text}
  {before middle after : Console} {file : Text} {files done assignments : List Text}
  {outcomes : List FillOutcome} {location : VaultLocation} {workspace : Workspace}

/-- The reports that the notes have when they are met. -/
abbrev reportsFrom (vault : Vault) (clock : Instant) (named : Keyed Text) (before : Console)
    (files : List Text) : List NoteReport :=
  vault.reports clock named before.session.here before.session.tree files

/-! ### Turns -/

theorem FillSteps.length_eq (h : FillSteps vault clock named before files outcomes after) :
    outcomes.length = files.length := by
  induction h with
  | nil => rfl
  | cons _ _ _ ih => rw [List.length_cons, List.length_cons, ih]

theorem FillSteps.ends_mapM (h : FillSteps vault clock named before files outcomes after) :
    (files.mapM (fillFile vault clock named false)).Ends before (.ok outcomes) after := by
  induction h with
  | nil => exact ends_pure _ _
  | cons fills _ _ ih =>
    rw [List.mapM_cons]
    exact fills.bind (ih.bind (ends_pure _ _))

omit [Styling] in
/-- A note that is not filled, in its turn and behind it. -/
theorem leavesNote_of_report
    (hkept : (vault.report clock named before.session.tree before.session.here file).outcome ≠
      .filled)
    (htree : middle.session.tree =
      vault.treeWith clock named before.session.here before.session.tree file)
    (hafter : after.session.tree =
      vault.treeAfter clock named before.session.here middle.session.tree files) :
    LeavesNote vault clock named before middle after file := by
  cases hchange : (vault.report clock named before.session.tree before.session.here file).change?
  with
  | none =>
    have hsame := htree.trans (NoteReport.write_of_change?_eq_none hchange _)
    refine .kept hsame fun spot hspot => ?_
    rw [hafter, hsame]
    exact (Vault.spares_of_change?_eq_none hspot hchange).get?_treeAfter files
  | some change =>
    obtain ⟨spot, text⟩ := change
    obtain ⟨path, content, filled, hpath, hnote, hfilled, -, rfl⟩ := Vault.exists_of_change hchange
    obtain ⟨old, hold⟩ := (Vault.rewrites_of_change hchange).stands
    rw [Vault.report_of_filled hpath hnote hfilled] at hkept
    have hunwritable := Vault.takesText_of_outcome hkept
    rw [Vault.treeWith_of_change hchange, DiskTree.heldText, if_neg (by simp [hunwritable])]
      at htree
    have hempty : middle.session.tree.get? spot = some (.file (.text [])) := by
      rw [htree]
      exact DiskTree.get?_set_of_ne_nil (DiskTree.ne_nil_of_file hold)
    refine .emptied hpath hnote hfilled hunwritable htree ?_
    rw [hafter, (Vault.spares_of_empty hempty).get?_treeAfter files, hempty]

/-- Where nothing stops the command, the run goes to its end. -/
theorem exists_fillSteps (before : Console)
    (h : ∀ report ∈ reportsFrom vault clock named before files, report.stop? = none) :
    ∃ after, FillSteps vault clock named before files
        ((reportsFrom vault clock named before files).map NoteReport.outcome) after ∧
      after.session.tree =
        vault.treeAfter clock named before.session.here before.session.tree files ∧
      after.session.here = before.session.here := by
  induction files generalizing before with
  | nil => exact ⟨before, .nil, rfl, rfl⟩
  | cons file files ih =>
    rw [reportsFrom, Vault.reports, List.forall_mem_cons] at h
    obtain ⟨middle, hfills, htree, hhere⟩ :
        (fillFile vault clock named false file).EndsAs before _ :=
      endsAs_fillFile before file
    rw [NoteReport.result, h.1] at hfills
    have hmiddle : reportsFrom vault clock named before (file :: files) =
        vault.report clock named before.session.tree before.session.here file ::
          reportsFrom vault clock named middle files := by
      rw [reportsFrom, reportsFrom, Vault.reports, htree, hhere]
      rfl
    obtain ⟨after, hsteps, hafter, hlast⟩ := ih middle (by
      rw [reportsFrom, htree, hhere]
      exact h.2)
    rw [hmiddle]
    refine ⟨after, .cons hfills (fun hkept => ?_) hsteps, ?_, hlast.trans hhere⟩
    · exact leavesNote_of_report hkept htree (hhere ▸ hafter)
    · rw [hafter, hhere, htree]
      rfl

/-- If something stops the command, there is a first report that does. -/
theorem exists_first_stop {here : List Text} {tree : DiskTree} {report : NoteReport} {stop : Stop}
    (hmem : report ∈ vault.reports clock named here tree files) (hstop : report.stop? = some stop) :
    ∃ done file rest first, files = done ++ file :: rest ∧
      (∀ report ∈ vault.reports clock named here tree done, report.stop? = none) ∧
      (vault.report clock named (vault.treeAfter clock named here tree done) here file).stop? =
        some first := by
  induction files generalizing tree with
  | nil => cases hmem
  | cons file files ih =>
    cases hfile : (vault.report clock named tree here file).stop? with
    | some first => exact ⟨[], file, files, first, rfl, by simp [Vault.reports], hfile⟩
    | none =>
      have hlater : report ∈
          vault.reports clock named here (vault.treeWith clock named here tree file) files := by
        rcases List.mem_cons.1 hmem with rfl | hmem
        · rw [hfile] at hstop
          cases hstop
        · exact hmem
      obtain ⟨done, next, rest, first, rfl, hdone, hnext⟩ := ih hlater
      refine ⟨file :: done, next, rest, first, rfl, ?_, hnext⟩
      intro other hother
      rcases List.mem_cons.1 hother with rfl | hother
      · exact hfile
      · exact hdone other hother

/-- What stops one turn stops the run. -/
theorem FillSteps.ends_mapM_stop {stop : Stop}
    (h : FillSteps vault clock named before done outcomes middle)
    (hfile : (fillFile vault clock named false file).Ends middle (.error stop) after)
    (rest : List Text) :
    ((done ++ file :: rest).mapM (fillFile vault clock named false)).Ends before (.error stop)
      after := by
  rw [List.mapM_append]
  apply h.ends_mapM.bind
  rw [List.mapM_cons]
  exact (hfile.bind_stop _).bind_stop _

/-! ### The summary -/

/-- The lines that say how many notes there are of each kind. -/
def summary (outcomes : List FillOutcome) : List Message :=
  [.line [], .line (styled "bold" "Summary".toList),
   .line ("Filled:  ".toList ++ decimal (outcomes.count .filled)),
   .line ("Skipped: ".toList ++ decimal (outcomes.count .skipped)),
   .line ("Failed:  ".toList ++ decimal (outcomes.count .failed))]

omit [LocalZone] [Styling] in
/-- Every note is counted once. -/
theorem count_add_count_add_count (outcomes : List FillOutcome) :
    outcomes.count .filled + outcomes.count .skipped + outcomes.count .failed =
      outcomes.length := by
  induction outcomes with
  | nil => rfl
  | cons outcome outcomes ih =>
    cases outcome <;> simp <;> omega

omit [LocalZone] in
/-- The summary is shown. -/
theorem ends_printSummary (before : Console) (outcomes : List FillOutcome) :
    (printSummary outcomes).Ends before (.ok ()) (before.taking (summary outcomes)) := by
  have hblank : Styling.refusal? [] = none := Styling.refusal?_words (by decide)
  have htitle : Styling.refusal? (styled "bold" "Summary".toList) = none :=
    Styling.refusal?_styledWords (by decide) (by decide)
  have hline {word : Text} (hword : word.IsWords) (number : Nat) (console : Console) :
      (printLine (word ++ decimal number)).Ends console (.ok ())
        (console.taking [.line (word ++ decimal number)]) :=
    ends_printLine (Styling.refusal?_words (hword.append (isWords_decimal number))) console
  have hends : (printSummary outcomes).Ends before (.ok ()) _ :=
    (ends_printLine hblank _).bind <| (ends_printLine htitle _).bind <|
      (hline (by decide) _ _).bind <| (hline (by decide) _ _).bind <| hline (by decide) _ _
  simp only [Console.taking_taking] at hends
  exact hends

/-! ### The run -/

/-- How the command ends by itself: with the exit code 1 if a note could not be filled, and with 0
otherwise. -/
def fillExit (outcomes : List FillOutcome) : Except Stop Unit :=
  if 0 < outcomes.count .failed then .error (.exit 1) else .ok ()

omit [LocalZone] in
/-- What the command does behind its turns. -/
theorem ends_finishFill (before : Console) (outcomes : List FillOutcome) :
    (do
      printSummary outcomes
      if outcomes.contains .failed then throw (.exit 1) : CommandAction Unit).Ends before
      (fillExit outcomes) (before.taking (summary outcomes)) := by
  apply (ends_printSummary before outcomes).bind
  rw [fillExit]
  by_cases hfailed : FillOutcome.failed ∈ outcomes
  · rw [if_pos (List.contains_iff_mem.2 hfailed), if_pos (List.count_pos_iff.2 hfailed)]
    exact ends_throw _ _
  · rw [if_neg fun h => hfailed (List.contains_iff_mem.1 h),
      if_neg fun h => hfailed (List.count_pos_iff.1 h)]
    exact ends_pure _ _

section

variable {loaded : Console} (hload : (load location).Ends before (.ok workspace) loaded)
  (hassigned : readAssignments assignments = .ok named)
include hload hassigned

/-- The vault is loaded and the values are read; then the notes have their turns. -/
theorem ends_runFill {result : Except Stop Unit}
    (h : (do
      let outcomes ← files.mapM (fillFile workspace.vault clock named false)
      printSummary outcomes
      if outcomes.contains .failed then throw (.exit 1) : CommandAction Unit).Ends loaded result
      after) :
    (runRequest location clock (.fill files assignments true)).Ends before result after := by
  apply hload.bind
  have hnamed : (assigned assignments).Ends loaded (.ok named) loaded := by
    rw [assigned, hassigned]
    exact ends_pure _ _
  exact hnamed.bind h

/-- Every note has its turn if nothing stops the command. -/
theorem exists_ends_of_unstopped (clock : Instant) (files : List Text)
    (h : ∀ report ∈ reportsFrom workspace.vault clock named loaded files, report.stop? = none) :
    ∃ outcomes after,
      outcomes = (reportsFrom workspace.vault clock named loaded files).map NoteReport.outcome ∧
      FillSteps workspace.vault clock named loaded files outcomes after ∧
      after.session.tree =
        workspace.vault.treeAfter clock named loaded.session.here loaded.session.tree files ∧
      (runRequest location clock (.fill files assignments true)).Ends before (fillExit outcomes)
        (after.taking (summary outcomes)) := by
  obtain ⟨after, hsteps, htree, -⟩ := exists_fillSteps loaded h
  exact ⟨_, after, rfl, hsteps, htree,
    ends_runFill hload hassigned (hsteps.ends_mapM.bind (ends_finishFill after _))⟩

/-- Notes that are named apart can be given in any order. -/
theorem exists_ends_of_perm (clock : Instant) {files others : List Text}
    (h : ∀ report ∈ reportsFrom workspace.vault clock named loaded files, report.stop? = none)
    (hapart : files.Pairwise (workspace.vault.Apart loaded.session.tree loaded.session.here))
    (hperm : files.Perm others) :
    ∃ other,
      (runRequest location clock (.fill others assignments true)).Ends before
        (fillExit ((reportsFrom workspace.vault clock named loaded files).map NoteReport.outcome))
        other ∧
      other.session.tree =
        workspace.vault.treeAfter clock named loaded.session.here loaded.session.tree files := by
  have hothers := (hperm.pairwise_iff fun h => h.symm).1 hapart
  have hreports : (reportsFrom workspace.vault clock named loaded files).Perm
      (reportsFrom workspace.vault clock named loaded others) := by
    rw [reportsFrom, reportsFrom, Vault.reports_of_apart clock named hapart,
      Vault.reports_of_apart clock named hothers]
    exact hperm.map _
  obtain ⟨outcomes, other, houtcomes, -, htree, hends⟩ :=
    exists_ends_of_unstopped hload hassigned clock others fun report hreport =>
      h report (hreports.mem_iff.2 hreport)
  have hexit : fillExit outcomes =
      fillExit ((reportsFrom workspace.vault clock named loaded files).map NoteReport.outcome) := by
    rw [houtcomes, fillExit, fillExit, (hreports.map NoteReport.outcome).count_eq]
  refine ⟨_, hexit ▸ hends, ?_⟩
  rw [Console.session_taking, htree, Vault.treeAfter_perm clock named hperm hapart]

/-- The first note that stops the command ends it there. -/
theorem exists_ends_of_stopped (clock : Instant) {files : List Text}
    (h : ∃ report ∈ reportsFrom workspace.vault clock named loaded files, report.stop? ≠ none) :
    ∃ done file rest outcomes middle stop after,
      files = done ++ file :: rest ∧
      FillSteps workspace.vault clock named loaded done outcomes middle ∧
      (workspace.vault.report clock named middle.session.tree middle.session.here file).stop? =
        some stop ∧
      (runRequest location clock (.fill files assignments true)).Ends before (.error stop) after ∧
      after.session.tree =
        workspace.vault.treeWith clock named middle.session.here middle.session.tree file := by
  obtain ⟨report, hmem, hstops⟩ := h
  obtain ⟨stop, hstop⟩ := Option.ne_none_iff_exists'.1 hstops
  obtain ⟨done, file, rest, first, rfl, hdone, hfirst⟩ := exists_first_stop hmem hstop
  obtain ⟨middle, hsteps, htree, hhere⟩ := exists_fillSteps loaded hdone
  rw [← htree, ← hhere] at hfirst
  obtain ⟨after, hends, hafter, -⟩ :
      (fillFile workspace.vault clock named false file).EndsAs middle _ :=
    endsAs_fillFile middle file
  rw [NoteReport.result, hfirst] at hends
  have hrun := ends_runFill hload hassigned ((hsteps.ends_mapM_stop hends rest).bind_stop _)
  exact ⟨done, file, rest, _, middle, first, after, rfl, hsteps, hfirst, hrun, hafter⟩

end

end CommandAction

/-! ### Two runs -/

section

attribute [local instance] LocalZone.utc Markup.styling

/-- A vault without settings, which is the working folder, with these notes. -/
def Console.ofNotes (notes : List (Text × Text)) : Console where
  session := {
    tree := ⟨(["vault".toList], .folder) ::
      notes.map fun note => (["vault".toList, note.1], .file (.text note.2)), .usual⟩
    here := ["vault".toList]
    notices := []
    nextPrompt := 1
    maxNesting := 900 }
  input := []
  output := []

/-- The console when such a vault is loaded. -/
def Console.loaded (console : Console) : Console :=
  { console with session := { console.session with
      notices := [styled "dim" "No settings at .titlestamp.json; using defaults.".toList] } }

/-- The vault is the working folder. -/
def VaultLocation.here : VaultLocation := ⟨⟨[], []⟩, ⟨[], [settingsFileName]⟩⟩

/-- A vault without settings. -/
def Workspace.unsettled : Workspace := ⟨⟨⟨[], []⟩⟩, .default, .choose (some .default) .none⟩

namespace CommandAction

/-- The first moment of a day in March. -/
def marchDay : Instant := ⟨⟨2024, 3, 21, by decide⟩, .midnight, none, false⟩

/-- Two notes with a prompt each. -/
def twoNotes : Console :=
  .ofNotes [("b.md".toList, "{% P %}".toList), ("c.md".toList, "{% Q %}".toList)]

/-- One note with a prompt. -/
def oneNote : Console := .ofNotes [("b.md".toList, "{% P %}".toList)]

end CommandAction

end

end NoteTemplate
