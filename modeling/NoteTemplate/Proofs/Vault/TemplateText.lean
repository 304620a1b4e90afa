import NoteTemplate.Creation.Plan
import NoteTemplate.Proofs.Vault.NewNote

/-!
# The text of a template

The file of a template is read when a note is planned.  A note that was added meanwhile does
not get in the way: the file is read as before, or the note itself stands at its path, and a
note can be read.
-/

namespace NoteTemplate.Vault

open NoteTemplate.Action

variable {vault : Vault} {path folder content : Text} {before after session : Session}
  {place : List Text} {note : CreatedNote} {found : Option Text}

theorem onlyReads_toDisk (path : Text) : (vault.toDisk path).OnlyReads := by
  intro before target after h
  obtain ⟨hadmits, rfl, rfl⟩ := gives_toDisk_iff.1 h
  refine ⟨.refl _, fun other hother => ⟨other, gives_toDisk_iff.2 ⟨?_, rfl, rfl⟩⟩⟩
  rw [hother.here]
  exact hadmits

theorem onlyReads_contains (path : Text) : (vault.contains path).OnlyReads :=
  (onlyReads_toDisk path).bind fun _ => (onlyReads_node? _).bind fun _ => onlyReads_pure _

theorem onlyReads_hasFolder (path : Text) : (vault.hasFolder path).OnlyReads :=
  (onlyReads_toDisk path).bind fun _ => (onlyReads_node? _).bind fun _ => onlyReads_pure _

theorem onlyReads_readText (path : DiskPath) : (readText path).OnlyReads := by
  apply (onlyReads_locate path).bind
  intro located
  split
  · split
    · exact onlyReads_pure _
    · exact onlyReads_throw _
  · exact onlyReads_throw _
  · exact onlyReads_throw _
  · exact onlyReads_throw _

theorem onlyReads_templateContent? (path : Text) : (vault.templateContent? path).OnlyReads := by
  rw [templateContent?]
  split
  · exact onlyReads_pure _
  · apply (onlyReads_contains path).bind
    intro _
    split
    · exact onlyReads_pure _
    · apply (onlyReads_hasFolder path).bind
      intro _
      split
      · exact onlyReads_pure _
      · exact ((onlyReads_toDisk path).bind fun _ => onlyReads_readText _).bind fun _ =>
          onlyReads_pure _

/-- The text at a path or at the path with the extension of notes. -/
def findTemplate? (vault : Vault) (path : Text) : Action (Option Text) := do
  match ← vault.templateContent? path with
  | some content => return some content
  | none =>
    if hasNoteExtension path then return none
    else vault.templateContent? (path ++ '.' :: noteExtension)

section

variable [Styling]

/-- Tell when no text was found. -/
def tellMissing (path : Text) (found : Option Text) : Action (Option Text) := do
  if found.isNone then
    Action.notice (styled "dim" ("Template file not found: ".toList ++ Styling.escape path))
  return found

theorem templateText?_eq (vault : Vault) (path : Text) :
    vault.templateText? path = vault.findTemplate? path >>= tellMissing path := by
  rw [templateText?, findTemplate?, bind_assoc]
  congr 1
  funext first
  cases first with
  | some content => rfl
  | none =>
    dsimp only
    by_cases hpath : hasNoteExtension path = true
    · rw [if_pos hpath, if_pos hpath]
      rfl
    · rw [if_neg hpath, if_neg hpath]
      rfl

/-- The console takes what is told. -/
theorem exists_gives_tellMissing (path : Text) (found : Option Text) (before : Session) :
    ∃ after, (tellMissing path found).Gives before found after := by
  rw [tellMissing]
  cases found with
  | some text => exact ⟨before, gives_pure_iff.2 ⟨rfl, rfl⟩⟩
  | none =>
    have hwords : Text.IsWords "Template file not found: ".toList := by decide
    have hdim : "dim" ∈ ["bold", "dim", "red", "green"] := by decide
    have hshown := Styling.refusal?_styled path hdim hwords (by decide : Text.IsWords [])
    rw [List.append_nil] at hshown
    exact ⟨_, gives_bind_iff.2 ⟨(), _, gives_notice_iff.2 ⟨hshown, rfl⟩,
      gives_pure_iff.2 ⟨rfl, rfl⟩⟩⟩

end

theorem onlyReads_findTemplate? (path : Text) : (vault.findTemplate? path).OnlyReads := by
  apply (onlyReads_templateContent? path).bind
  intro first
  split
  · exact onlyReads_pure _
  · split
    · exact onlyReads_pure _
    · exact onlyReads_templateContent? _

section

variable [Styling]

theorem onlyReads_tellMissing (path : Text) (found : Option Text) :
    (tellMissing path found).OnlyReads := by
  rw [tellMissing]
  split
  · exact (onlyReads_notice _).bind fun _ => onlyReads_pure _
  · exact onlyReads_pure _

theorem onlyReads_templateText? (path : Text) : (vault.templateText? path).OnlyReads := by
  rw [templateText?_eq]
  exact (onlyReads_findTemplate? path).bind (onlyReads_tellMissing path)

theorem onlyReads_startingText? (stored : Option StoredText) :
    (vault.startingText? stored).OnlyReads := by
  cases stored with
  | none => exact onlyReads_pure _
  | some stored =>
    rw [startingText?]
    split
    · exact onlyReads_pure _
    · split
      · exact onlyReads_templateText? _
      · exact onlyReads_throw _

end

/-! ### Reading again behind a new note -/

theorem gives_read_iff {file : FileContent} {text : Text} (hadmits : vault.Admits before.here path)
    (hfile : vault.nodeIn before path = some (.file file)) :
    (vault.read path).Gives before text after ↔
      (∃ stored, file.decode = .ok stored ∧ text = unixLines stored) ∧ after = before := by
  obtain ⟨spot, hspot⟩ := exists_located_of_nodeIn vault hfile
  rw [read]
  simp only [readText, gives_bind_iff, gives_toDisk_iff, gives_locate_iff]
  constructor
  · rintro ⟨_, _, ⟨-, rfl, rfl⟩, _, _, ⟨-, rfl, rfl⟩, h⟩
    rw [hspot] at h
    dsimp only at h
    split at h
    · next stored hstored =>
      obtain ⟨rfl, rfl⟩ := gives_pure_iff.1 h
      exact ⟨⟨stored, hstored, rfl⟩, rfl⟩
    · exact absurd h gives_throw_iff
  · rintro ⟨⟨stored, hstored, rfl⟩, rfl⟩
    refine ⟨_, _, ⟨hadmits, rfl, rfl⟩, _, _, ⟨hadmits.noNull, rfl, rfl⟩, ?_⟩
    rw [hspot]
    dsimp only
    rw [hstored]
    exact gives_pure_iff.2 ⟨rfl, rfl⟩

/-- Of what stands at the path only a file is read. -/
theorem gives_templateContent?_iff (hne : path ≠ []) :
    (vault.templateContent? path).Gives before found after ↔
      vault.Reaches before path ∧
        match vault.nodeIn before path with
        | some (.file _) => ∃ text, (vault.read path).Gives before text after ∧ found = some text
        | _ => found = none ∧ after = before := by
  have hempty : path.isEmpty = false := List.isEmpty_eq_false_iff.2 hne
  rw [templateContent?, hempty, if_neg (by decide)]
  by_cases hreaches : vault.Reaches before path
  · cases hnode : vault.nodeIn before path with
    | none =>
      simp [gives_bind_iff, gives_contains_iff, gives_pure_iff, hreaches, hnode]
    | some node =>
      cases node with
      | folder =>
        simp [gives_bind_iff, gives_contains_iff, gives_hasFolder_iff, gives_pure_iff, hreaches,
          hnode, DiskNode.isFolder]
      | file content =>
        simp [gives_bind_iff, gives_contains_iff, gives_hasFolder_iff, gives_map_iff, hreaches,
          hnode, DiskNode.isFolder]
  · simp [gives_bind_iff, gives_contains_iff, hreaches]

/-- What is found depends on what stands at the path. -/
theorem gives_templateContent?_of_nodeIn_eq {other : Session} (hne : path ≠ [])
    (hreaches : vault.Reaches other path)
    (hsame : vault.nodeIn other path = vault.nodeIn before path)
    (hfound : (vault.templateContent? path).Gives before found session) :
    session = before ∧ (vault.templateContent? path).Gives other found other := by
  obtain ⟨hreachesBefore, hread⟩ := (gives_templateContent?_iff hne).1 hfound
  rw [gives_templateContent?_iff hne, hsame]
  cases hwas : vault.nodeIn before path with
  | none =>
    rw [hwas] at hread
    exact ⟨hread.2, hreaches, hread.1, rfl⟩
  | some node =>
    cases node with
    | folder =>
      rw [hwas] at hread
      exact ⟨hread.2, hreaches, hread.1, rfl⟩
    | file file =>
      rw [hwas] at hread hsame
      obtain ⟨text, htext, hfoundText⟩ := hread
      obtain ⟨hstored, hsession⟩ := (gives_read_iff hreachesBefore.admits hwas).1 htext
      have hagain := (gives_read_iff hreaches.admits hsame).2 ⟨hstored, rfl⟩
      exact ⟨hsession, hreaches, text, hagain, hfoundText⟩

theorem AddsNote.reaches_after (h : vault.AddsNote folder content place note before after)
    (hreaches : vault.Reaches before path) : vault.Reaches after path where
  admits := by
    rw [h.here_eq]
    exact hreaches.admits
  notTooLong htooLong := by
    rw [h.here_eq, h.tree_eq] at htooLong
    exact hreaches.notTooLong (DiskTree.isTooLong_of_set h.vacant htooLong)

theorem AddsNote.nodeIn_after (h : vault.AddsNote folder content place note before after)
    (path : Text) :
    vault.nodeIn after path = vault.nodeIn before path ∨
      vault.nodeIn after path = some (.file (.text content)) := by
  rw [nodeIn, nodeIn, h.tree_eq, h.here_eq]
  exact DiskTree.node?_set h.vacant before.here _

/-- Where the file of a template was looked for and none was found, none is found behind a
new note either, unless it is the note. -/
theorem exists_templateContent?_of_addsNote
    (h : vault.AddsNote folder content place note before after)
    (hfound : (vault.templateContent? path).Gives before found session) :
    session = before ∧ ∃ again, (vault.templateContent? path).Gives after again after ∧
      (again = none → found = none) := by
  by_cases hne : path = []
  · subst hne
    obtain ⟨rfl, rfl⟩ := gives_pure_iff.1 hfound
    exact ⟨rfl, none, gives_pure_iff.2 ⟨rfl, rfl⟩, fun _ => rfl⟩
  · have hreaches := ((gives_templateContent?_iff hne).1 hfound).1
    have hafter := h.reaches_after hreaches
    refine ⟨(gives_templateContent?_of_nodeIn_eq hne hreaches rfl hfound).1, ?_⟩
    cases h.nodeIn_after path with
    | inl hsame =>
      have hagain := gives_templateContent?_of_nodeIn_eq hne hafter hsame hfound
      exact ⟨found, hagain.2, fun hnone => hnone⟩
    | inr hnote =>
      have hread := (gives_read_iff hafter.admits hnote).2 ⟨⟨_, rfl, rfl⟩, rfl⟩
      refine ⟨some (unixLines content), ?_, by simp⟩
      rw [gives_templateContent?_iff hne, hnote]
      exact ⟨hafter, _, hread, rfl⟩

theorem exists_findTemplate?_of_addsNote
    (h : vault.AddsNote folder content place note before after)
    (hfound : (vault.findTemplate? path).Gives before found session) :
    ∃ again, (vault.findTemplate? path).Gives after again after := by
  rw [findTemplate?, gives_bind_iff] at hfound
  obtain ⟨first, middle, hfirst, hrest⟩ := hfound
  obtain ⟨hmiddle, firstAgain, hagain, hnone⟩ := exists_templateContent?_of_addsNote h hfirst
  rw [hmiddle] at hrest
  simp only [findTemplate?, gives_bind_iff]
  cases firstAgain with
  | some text => exact ⟨some text, _, _, hagain, gives_pure_iff.2 ⟨rfl, rfl⟩⟩
  | none =>
    rw [hnone rfl] at hrest
    by_cases hpath : hasNoteExtension path = true
    · simp only [if_pos hpath]
      exact ⟨none, _, _, hagain, gives_pure_iff.2 ⟨rfl, rfl⟩⟩
    · simp only [if_neg hpath] at hrest ⊢
      obtain ⟨-, again, hsecond, -⟩ := exists_templateContent?_of_addsNote h hrest
      exact ⟨again, _, _, hagain, hsecond⟩

/-- The text of a template that could be read can be read again behind a new note. -/
theorem exists_startingText?_of_addsNote [Styling] {stored : Option StoredText}
    (h : vault.AddsNote folder content place note before after)
    (hfound : (vault.startingText? stored).Gives before found session) :
    ∃ again later, (vault.startingText? stored).Gives after again later := by
  cases stored with
  | none => exact ⟨none, after, gives_pure_iff.2 ⟨rfl, rfl⟩⟩
  | some stored =>
    rw [startingText?] at hfound ⊢
    by_cases hfilled : (!stored.isFilled) = true
    · rw [if_pos hfilled]
      exact ⟨none, after, gives_pure_iff.2 ⟨rfl, rfl⟩⟩
    · rw [if_neg hfilled] at hfound ⊢
      cases htext : stored.asText? with
      | none =>
        rw [htext] at hfound
        exact absurd hfound gives_throw_iff
      | some path =>
        rw [htext] at hfound
        dsimp only at hfound ⊢
        rw [templateText?_eq] at hfound ⊢
        obtain ⟨first, _, hfirst, -⟩ := gives_bind_iff.1 hfound
        obtain ⟨again, hagain⟩ := exists_findTemplate?_of_addsNote h hfirst
        obtain ⟨later, hlater⟩ := exists_gives_tellMissing path again after
        exact ⟨again, later, gives_bind_iff.2 ⟨again, after, hagain, hlater⟩⟩

end NoteTemplate.Vault
