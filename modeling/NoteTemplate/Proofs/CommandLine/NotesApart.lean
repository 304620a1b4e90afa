import NoteTemplate.Proofs.CommandLine.NoteReport
import NoteTemplate.Proofs.Disk.Leaving
import NoteTemplate.Proofs.Disk.Rewriting

/-!
# Notes that are filled one after the other

Filling one note changes the report of no other note, and a note that is not written is left alone
for good: another name of the same note leads to the same text.  Notes that are named apart can
therefore be filled in any order.
-/

namespace NoteTemplate.Vault

open CommandAction (FillOutcome)

variable {vault : Vault} {clock : Instant} {named : Keyed Text} {tree : DiskTree}
  {here spot : List Text} {path file other text : Text} {files others : List Text}
  {old content : FileContent} {report : NoteReport}

/-- Where the note that an argument names is looked for. -/
def lookedUp (vault : Vault) (tree : DiskTree) (here : List Text) (file : Text) : DiskPath :=
  match vault.pathNamed tree here file with
  | .ok path => vault.diskPath path
  | .error _ => DiskPath.ofText file

/-- The place of the note that an argument names, if there is one. -/
def noteNamed? (vault : Vault) (tree : DiskTree) (here : List Text) (file : Text) :
    Option (List Text) :=
  if (vault.lookedUp tree here file).hasNull then none
  else
    match tree.locate here (vault.lookedUp tree here file) with
    | .ok (.found spot (.file _)) => some spot
    | _ => none

theorem noteNamed?_eq_some_iff :
    vault.noteNamed? tree here file = some spot ↔
      (vault.lookedUp tree here file).hasNull = false ∧ ∃ content,
        tree.locate here (vault.lookedUp tree here file) = .ok (.found spot (.file content)) := by
  rw [noteNamed?]
  cases hnull : (vault.lookedUp tree here file).hasNull with
  | true => simp
  | false =>
    rw [if_neg (by simp)]
    split
    · next place content hlocate =>
      rw [hlocate]
      simp
    · next hother =>
      simp only [reduceCtorEq, true_and, false_iff]
      rintro ⟨content, hlocate⟩
      exact hother _ _ hlocate

theorem lookedUp_of_ok (h : vault.pathNamed tree here file = .ok path) :
    vault.lookedUp tree here file = vault.diskPath path := by
  rw [lookedUp, h]

/-- A path leads to the place that it names. -/
theorem resolve_of_locate {target : DiskPath} {location : Location}
    (h : tree.locate here target = .ok location) : location.place = target.resolve here :=
  DiskTree.place_eq_follow (DiskTree.locateFrom_of_locate h)

/-- The note that is found at a place stands there. -/
theorem get?_of_locate_file {target : DiskPath}
    (h : tree.locate here target = .ok (.found spot (.file content))) :
    tree.get? spot = some (.file content) :=
  DiskTree.get?_of_locateFrom_file (DiskTree.locateFrom_of_locate h)

theorem noteNamed?_of_noteAt (hpath : vault.pathNamed tree here file = .ok path)
    (hnote : vault.noteAt tree here path = .ok (spot, text)) :
    vault.noteNamed? tree here file = some spot := by
  obtain ⟨hadmits, content, -, hlocate, -⟩ := noteAt_eq_ok_iff.1 hnote
  rw [noteNamed?_eq_some_iff, lookedUp_of_ok hpath]
  exact ⟨hadmits.noNull, content, hlocate⟩

/-- A path is only refused when it is too long or leads out of the vault. -/
theorem not_inside_of_error {stop : Stop} (h : vault.pathNamed tree here file = .error stop)
    (hshort : ¬tree.IsTooLong here (DiskPath.ofText file)) :
    ¬(vault.root.resolve here).isPrefixOf
      ((vault.lookedUp tree here file).resolve here) = true := by
  rw [lookedUp, h]
  rw [pathNamed, if_neg hshort] at h
  split at h
  · split at h
    · cases h
    · assumption
  · cases h

/-- The text of a note that stands inside the vault is found under each of its names. -/
theorem exists_noteAt (hinside : vault.root.resolve here <+: spot)
    (hnamed : vault.noteNamed? tree here file = some spot)
    (hstands : tree.get? spot = some (.file content)) (htext : content.decode = .ok text) :
    ∃ path, vault.pathNamed tree here file = .ok path ∧
      vault.noteAt tree here path = .ok (spot, unixLines text) := by
  obtain ⟨hnull, stored, hlocate⟩ := noteNamed?_eq_some_iff.1 hnamed
  obtain rfl : stored = content := by
    have hstored := get?_of_locate_file hlocate
    rw [hstands] at hstored
    exact (DiskNode.file.inj (Option.some.inj hstored)).symm
  have hprefix : (vault.root.resolve here).isPrefixOf
      ((vault.lookedUp tree here file).resolve here) = true := by
    rw [← resolve_of_locate hlocate]
    exact List.isPrefixOf_iff_prefix.2 hinside
  cases hpath : vault.pathNamed tree here file with
  | error stop =>
    refine absurd hprefix (not_inside_of_error hpath fun htooLong => ?_)
    rw [lookedUp, hpath] at hlocate
    cases htooLong.2.symm.trans hlocate
  | ok path =>
    rw [lookedUp_of_ok hpath] at hnull hlocate hprefix
    exact ⟨path, rfl, noteAt_eq_ok_iff.2 ⟨⟨hnull, hprefix⟩, stored, text, hlocate, htext, rfl⟩⟩

/-- What is written is the note that is named. -/
structure Rewrites (vault : Vault) (tree : DiskTree) (here : List Text) (file : Text)
    (spot : List Text) : Prop where
  named : vault.noteNamed? tree here file = some spot
  stands : ∃ content, tree.get? spot = some (.file content)
  inside : vault.root.resolve here <+: spot

/-- Two arguments do not name the same note. -/
def Apart (vault : Vault) (tree : DiskTree) (here : List Text) (file other : Text) : Prop :=
  ∀ spot, vault.noteNamed? tree here file = some spot → vault.noteNamed? tree here other ≠ some spot

theorem Apart.symm (h : vault.Apart tree here file other) : vault.Apart tree here other file :=
  fun spot hother hfile => h spot hfile hother

/-! ### A note is written -/

section

variable (h : tree.get? spot = some (.file old))
include h

theorem pathNamed_rewrite (here : List Text) (file : Text) :
    vault.pathNamed (tree.set spot (.file content)) here file = vault.pathNamed tree here file := by
  simp only [pathNamed, DiskTree.isTooLong_rewrite_iff h, DiskTree.node?_isSome_rewrite h]

theorem lookedUp_rewrite (here : List Text) (file : Text) :
    vault.lookedUp (tree.set spot (.file content)) here file = vault.lookedUp tree here file := by
  rw [lookedUp, lookedUp, pathNamed_rewrite h]

theorem noteNamed?_rewrite (here : List Text) (file : Text) :
    vault.noteNamed? (tree.set spot (.file content)) here file =
      vault.noteNamed? tree here file := by
  rw [noteNamed?, noteNamed?, lookedUp_rewrite h, DiskTree.locate_rewrite h]
  split
  · rfl
  · cases tree.locate here _ with
    | error error => rfl
    | ok location =>
      cases location with
      | vacant vacant => rfl
      | found place node => cases node <;> rfl

theorem noteAt_rewrite (hne : ∀ stored,
    tree.locate here (vault.diskPath path) ≠ .ok (.found spot (.file stored))) :
    vault.noteAt (tree.set spot (.file content)) here path = vault.noteAt tree here path := by
  rw [noteAt, noteAt, DiskTree.locate_rewrite h]
  split
  · rfl
  · split
    · cases hlocate : tree.locate here (vault.diskPath path) with
      | error error => rfl
      | ok location =>
        cases location with
        | vacant vacant => rfl
        | found place node =>
          cases node with
          | folder => rfl
          | file stored =>
            have hplace : place ≠ spot := by
              rintro rfl
              exact hne stored hlocate
            simp only [Except.map, Location.rewrite, if_neg hplace]
    · rfl

end

theorem change?_rewriteReport (tree : DiskTree) (path : Text) (spot : List Text)
    (text filled : Text) : (rewriteReport tree path spot text filled).change? =
      if filled = text then none else some (spot, tree.heldText filled) := by
  rw [rewriteReport, DiskTree.heldText]
  cases tree.takesText filled <;> split <;> rfl

/-- A note that is not filled although its text can be cannot be written. -/
theorem takesText_of_outcome (h : (rewriteReport tree path spot text other).outcome ≠ .filled) :
    tree.takesText other = false := by
  rw [Bool.eq_false_iff]
  intro htakes
  rw [rewriteReport, if_pos htakes] at h
  split at h <;> exact h rfl

/-! ### Turns -/

variable [LocalZone]

/-- The disk after one note is filled. -/
def treeWith (vault : Vault) (clock : Instant) (named : Keyed Text) (here : List Text)
    (tree : DiskTree) (file : Text) : DiskTree :=
  (vault.report clock named tree here file).write tree

/-- The disk after the notes are filled one after the other. -/
def treeAfter (vault : Vault) (clock : Instant) (named : Keyed Text) (here : List Text)
    (tree : DiskTree) (files : List Text) : DiskTree :=
  files.foldl (vault.treeWith clock named here) tree

/-- The reports about the notes, each on the disk that the ones before have left. -/
def reports (vault : Vault) (clock : Instant) (named : Keyed Text) (here : List Text) :
    DiskTree → List Text → List NoteReport
  | _, [] => []
  | tree, file :: files =>
    vault.report clock named tree here file ::
      vault.reports clock named here (vault.treeWith clock named here tree file) files

/-- The report about a note that can be filled. -/
theorem report_of_filled {filled : Text} (hpath : vault.pathNamed tree here file = .ok path)
    (hnote : vault.noteAt tree here path = .ok (spot, text))
    (hfilled : fillResult clock named 0 text = .filled filled) :
    vault.report clock named tree here file = rewriteReport tree path spot text filled := by
  rw [Vault.report, hpath]
  dsimp only
  rw [reportAt, hnote]
  dsimp only
  rw [hfilled]

/-- A note is written because of its own text. -/
theorem exists_of_change (h : (vault.report clock named tree here file).change? =
      some (spot, text)) :
    ∃ path content filled, vault.pathNamed tree here file = .ok path ∧
      vault.noteAt tree here path = .ok (spot, content) ∧
      fillResult clock named 0 content = .filled filled ∧ filled ≠ content ∧
      text = tree.heldText filled := by
  have hstopped (shown : Text) (stop : Stop) :
      (NoteReport.ofStop shown stop).change? ≠ some (spot, text) := by
    rw [NoteReport.ofStop]
    split <;> simp [NoteReport.change?]
  rw [Vault.report] at h
  split at h
  · exact absurd h (hstopped _ _)
  · next path hpath =>
    rw [reportAt] at h
    split at h
    · exact absurd h (hstopped _ _)
    · next place content hnote =>
      split at h
      · cases h
      · exact absurd h (hstopped _ _)
      · next filled hfilled =>
        rw [change?_rewriteReport] at h
        split at h
        · cases h
        · next hchanged =>
          obtain ⟨rfl, rfl⟩ := Prod.mk.inj (Option.some.inj h)
          exact ⟨path, content, filled, hpath, hnote, hfilled, hchanged, rfl⟩

theorem rewrites_of_change (h : (vault.report clock named tree here file).change? =
      some (spot, text)) : vault.Rewrites tree here file spot := by
  obtain ⟨path, content, filled, hpath, hnote, -⟩ := exists_of_change h
  obtain ⟨hadmits, stored, -, hlocate, -⟩ := noteAt_eq_ok_iff.1 hnote
  refine ⟨noteNamed?_of_noteAt hpath hnote, ⟨stored, get?_of_locate_file hlocate⟩, ?_⟩
  rw [show spot = (vault.diskPath path).resolve here from resolve_of_locate hlocate]
  exact List.isPrefixOf_iff_prefix.1 hadmits.inside

theorem treeWith_of_change {change : List Text × Text}
    (h : (vault.report clock named tree here file).change? = some change) :
    vault.treeWith clock named here tree file = tree.set change.1 (.file (.text change.2)) := by
  rw [treeWith, NoteReport.write, h]

/-- One note at most is written. -/
theorem treeWith_cases (vault : Vault) (clock : Instant) (named : Keyed Text) (here : List Text)
    (tree : DiskTree) (file : Text) :
    vault.treeWith clock named here tree file = tree ∨
      ∃ spot text, (vault.report clock named tree here file).change? = some (spot, text) ∧
        vault.Rewrites tree here file spot ∧
        vault.treeWith clock named here tree file = tree.set spot (.file (.text text)) := by
  cases hchange : (vault.report clock named tree here file).change? with
  | none => exact .inl (NoteReport.write_of_change?_eq_none hchange tree)
  | some change =>
    exact .inr ⟨change.1, change.2, rfl, rewrites_of_change hchange, treeWith_of_change hchange⟩

/-! ### Other notes -/

/-- The report of no other note changes. -/
theorem report_rewrite (h : tree.get? spot = some (.file old))
    (hne : vault.noteNamed? tree here file ≠ some spot) :
    vault.report clock named (tree.set spot (.file content)) here file =
      vault.report clock named tree here file := by
  rw [Vault.report, Vault.report, pathNamed_rewrite h]
  cases hpath : vault.pathNamed tree here file with
  | error reason => rfl
  | ok path =>
    dsimp only
    rw [reportAt, reportAt]
    cases hnull : (vault.diskPath path).hasNull with
    | true =>
      have hnote (tree : DiskTree) : vault.noteAt tree here path = .error .nullInPath := by
        rw [noteAt, if_pos hnull]
      rw [hnote, hnote]
    | false =>
      have hother (stored : FileContent) :
          tree.locate here (vault.diskPath path) ≠ .ok (.found spot (.file stored)) := by
        intro hlocate
        rw [Ne, noteNamed?_eq_some_iff, lookedUp_of_ok hpath] at hne
        exact hne ⟨hnull, stored, hlocate⟩
      rw [noteAt_rewrite h hother]
      rfl

theorem noteNamed?_treeWith (vault : Vault) (clock : Instant) (named : Keyed Text)
    (here : List Text) (tree : DiskTree) (file other : Text) :
    vault.noteNamed? (vault.treeWith clock named here tree file) here other =
      vault.noteNamed? tree here other := by
  obtain heq | ⟨spot, text, -, hrewrites, heq⟩ :=
    vault.treeWith_cases clock named here tree file
  · rw [heq]
  · obtain ⟨content, hstands⟩ := hrewrites.stands
    rw [heq, noteNamed?_rewrite hstands]

theorem report_treeWith (h : vault.Apart tree here file other) :
    vault.report clock named (vault.treeWith clock named here tree file) here other =
      vault.report clock named tree here other := by
  obtain heq | ⟨spot, text, -, hrewrites, heq⟩ :=
    vault.treeWith_cases clock named here tree file
  · rw [heq]
  · obtain ⟨content, hstands⟩ := hrewrites.stands
    rw [heq, report_rewrite hstands (h spot hrewrites.named)]

/-- Two notes are filled in any order. -/
theorem treeWith_comm (vault : Vault) (clock : Instant) (named : Keyed Text)
    (h : vault.Apart tree here file other) :
    vault.treeWith clock named here (vault.treeWith clock named here tree file) other =
      vault.treeWith clock named here (vault.treeWith clock named here tree other) file := by
  have hother : vault.treeWith clock named here (vault.treeWith clock named here tree file) other =
      (vault.report clock named tree here other).write
        ((vault.report clock named tree here file).write tree) := by
    rw [treeWith, report_treeWith h, treeWith]
  have hfile : vault.treeWith clock named here (vault.treeWith clock named here tree other) file =
      (vault.report clock named tree here file).write
        ((vault.report clock named tree here other).write tree) := by
    rw [treeWith, report_treeWith h.symm, treeWith]
  rw [hother, hfile]
  simp only [NoteReport.write]
  cases hfirst : (vault.report clock named tree here file).change? with
  | none => rfl
  | some first =>
    cases hsecond : (vault.report clock named tree here other).change? with
    | none => rfl
    | some second =>
      have hleft := rewrites_of_change hfirst
      have hright := rewrites_of_change hsecond
      have hne : first.1 ≠ second.1 := fun heq => h _ hleft.named (heq ▸ hright.named)
      exact DiskTree.set_comm hne hleft.stands hright.stands

/-! ### Notes in any order -/

theorem apart_treeWith (vault : Vault) (clock : Instant) (named : Keyed Text) (first : Text) :
    vault.Apart (vault.treeWith clock named here tree first) here file other ↔
      vault.Apart tree here file other := by
  rw [Apart, Apart]
  simp only [noteNamed?_treeWith]

theorem pairwise_apart_treeWith (vault : Vault) (clock : Instant) (named : Keyed Text)
    (first : Text) (h : files.Pairwise (vault.Apart tree here)) :
    files.Pairwise (vault.Apart (vault.treeWith clock named here tree first) here) :=
  h.imp (apart_treeWith vault clock named first).2

/-- Notes that are named apart have the reports that they have at the start. -/
theorem reports_of_apart (clock : Instant) (named : Keyed Text)
    (h : files.Pairwise (vault.Apart tree here)) :
    vault.reports clock named here tree files = files.map (vault.report clock named tree here) := by
  induction files generalizing tree with
  | nil => rfl
  | cons file files ih =>
    rw [List.pairwise_cons] at h
    rw [reports, ih (pairwise_apart_treeWith vault clock named file h.2), List.map_cons]
    congr 1
    exact List.map_congr_left fun other hother => report_treeWith (h.1 other hother)

/-- Notes that are named apart are filled in any order. -/
theorem treeAfter_perm (clock : Instant) (named : Keyed Text) (hperm : files.Perm others)
    (h : files.Pairwise (vault.Apart tree here)) :
    vault.treeAfter clock named here tree files = vault.treeAfter clock named here tree others := by
  induction hperm generalizing tree with
  | nil => rfl
  | cons file _ ih => exact ih (pairwise_apart_treeWith vault clock named file h.of_cons)
  | swap first second files =>
    have hfirst : vault.Apart tree here second first :=
      (List.pairwise_cons.1 h).1 first List.mem_cons_self
    rw [treeAfter, List.foldl_cons, List.foldl_cons, treeWith_comm vault clock named hfirst]
    rfl
  | trans hfirst _ ihfirst ihsecond =>
    have hmiddle := (hfirst.pairwise_iff fun h => h.symm).1 h
    exact (ihfirst h).trans (ihsecond hmiddle)

/-! ### Notes that are not written -/

/-- No argument leads to another text of the note. -/
def Spares (vault : Vault) (clock : Instant) (named : Keyed Text) (here : List Text)
    (spot : List Text) (tree : DiskTree) : Prop :=
  ∀ file text, (vault.report clock named tree here file).change? ≠ some (spot, text)

/-- A note that is not written under one name is not written under another. -/
theorem spares_of_change?_eq_none (hnamed : vault.noteNamed? tree here file = some spot)
    (h : (vault.report clock named tree here file).change? = none) :
    vault.Spares clock named here spot tree := by
  intro other text hother
  obtain ⟨path, content, filled, -, hnote, hfilled, hchanged, -⟩ := exists_of_change hother
  obtain ⟨-, stored, decoded, hlocate, hdecoded, rfl⟩ := noteAt_eq_ok_iff.1 hnote
  obtain ⟨name, hname, hfound⟩ := exists_noteAt (rewrites_of_change hother).inside hnamed
    (get?_of_locate_file hlocate) hdecoded
  rw [report_of_filled hname hfound hfilled, change?_rewriteReport, if_neg hchanged] at h
  cases h

/-- A note that is empty has no prompts. -/
theorem spares_of_empty (h : tree.get? spot = some (.file (.text []))) :
    vault.Spares clock named here spot tree := by
  intro other text hother
  obtain ⟨path, content, filled, -, hnote, hfilled, -, -⟩ := exists_of_change hother
  obtain ⟨-, file, stored, hlocate, hstored, rfl⟩ := noteAt_eq_ok_iff.1 hnote
  obtain rfl := DiskNode.file.inj (Option.some.inj (h.symm.trans (get?_of_locate_file hlocate)))
  obtain rfl := Except.ok.inj hstored
  cases hfilled

/-- What is spared stays spared. -/
theorem Spares.treeWith (h : vault.Spares clock named here spot tree) (file : Text) :
    vault.Spares clock named here spot (vault.treeWith clock named here tree file) ∧
      (vault.treeWith clock named here tree file).get? spot = tree.get? spot := by
  obtain heq | ⟨place, text, hchange, hrewrites, heq⟩ :=
    vault.treeWith_cases clock named here tree file
  · rw [heq]
    exact ⟨h, rfl⟩
  · have hne : spot ≠ place := by
      rintro rfl
      exact h file text hchange
    refine ⟨fun other filled hother => ?_, by rw [heq, DiskTree.get?_set_of_ne tree hne]⟩
    have hnamed := (rewrites_of_change hother).named
    rw [noteNamed?_treeWith] at hnamed
    have hapart : vault.Apart tree here file other := by
      intro found hfound hsame
      rw [hrewrites.named] at hfound
      rw [hnamed] at hsame
      exact hne ((Option.some.inj hsame).trans (Option.some.inj hfound).symm)
    rw [report_treeWith hapart] at hother
    exact h other filled hother

theorem Spares.get?_treeAfter (h : vault.Spares clock named here spot tree) (files : List Text) :
    (vault.treeAfter clock named here tree files).get? spot = tree.get? spot := by
  induction files generalizing tree with
  | nil => rfl
  | cons file files ih => exact (ih (h.treeWith file).1).trans (h.treeWith file).2

end NoteTemplate.Vault
