import NoteTemplate.Creation.Filling
import NoteTemplate.Proofs.Creation.NoteText
import NoteTemplate.Proofs.Disk.Refusing
import NoteTemplate.Proofs.Prompt.FencedCode
import NoteTemplate.Proofs.Vault.TemplateText

/-!
# A note that is filled in place

A note is read with line feeds as line ends, filled, and written only if that changed it.  So
what is stored afterwards is the old text untouched, or the text with line feeds in which some
prompts are replaced and nothing else; a note without carriage returns changes in its prompts
alone.  The rest of the disk stays as it is.
-/

namespace NoteTemplate

open NoteTemplate.Action

variable {vault : Vault} {path filled text : Text} {prompts : List Prompt} {moment : Moment}
  {values : PromptValues} {before after : Session}

/-! ### Line ends -/

theorem carriageReturn_notMem_unixLines (text : Text) : '\r' ∉ unixLines text := by
  fun_induction unixLines text with
  | case1 => exact List.not_mem_nil
  | case2 rest ih => simpa using ih
  | case3 c rest hcrlf ih =>
    rw [List.mem_cons, not_or]
    refine ⟨?_, ih⟩
    split
    · decide
    · next hne => exact Ne.symm hne

theorem unixLines_eq_self (h : '\r' ∉ text) : unixLines text = text := by
  fun_induction unixLines text with
  | case1 => rfl
  | case2 rest ih => exact absurd List.mem_cons_self h
  | case3 c rest hcrlf ih =>
    rw [List.mem_cons, not_or] at h
    rw [ih h.2, if_neg (Ne.symm h.1)]

/-- Only a text with a carriage return is read otherwise than it is stored. -/
theorem unixLines_eq_self_iff : unixLines text = text ↔ '\r' ∉ text := by
  refine ⟨fun h => ?_, unixLines_eq_self⟩
  rw [← h]
  exact carriageReturn_notMem_unixLines text

/-! ### Prompts that are replaced -/

/-- The result is the text with prompts replaced: each stretch that is replaced is a tag that
starts outside code and has the name of one of the prompts, and all the rest is kept. -/
structure ReplacesPrompts (prompts : List Prompt) (text result : Text)
    (replaced : List (Span Nat × Text)) : Prop where
  replaces : Text.Replaces text 0 replaced result
  asked : ∀ entry ∈ replaced, ∃ found ∈ promptTags text, found.span = entry.1 ∧
    (∀ block ∈ codeBlocks text, ¬block.Holds found.span.start) ∧
    ∃ prompt ∈ prompts, prompt.key = Text.lower (promptName found.value.content)
  keeps : ∃ place, Text.KeepsAt text result (Text.IsKept replaced) place

theorem mem_of_promptIn? {found : TagOccurrence} {prompt : Prompt}
    (h : found.promptIn? prompts = some prompt) :
    prompt ∈ prompts ∧ prompt.key = Text.lower (promptName found.value.content) := by
  rw [TagOccurrence.promptIn?] at h
  split at h
  · cases h
  · exact ⟨List.mem_reverse.1 (List.mem_of_find?_eq_some h), Prompt.key_of_find? h⟩

theorem replacesPrompts_fillNote (prompts : List Prompt) (values : PromptValues) (text : Text) :
    ReplacesPrompts prompts text (fillNote prompts values text)
      (noteReplacements prompts values text) := by
  have hreplaces := replaces_fillNote prompts values text
  refine ⟨hreplaces, ?_, _, hreplaces.keepsAt fun entry hentry =>
    start_lt_stop_of_mem_noteReplacements hentry⟩
  intro entry hentry
  obtain ⟨found, hfound, hspan, hblocks, prompt, hprompt, -⟩ := mem_noteReplacements_iff.1 hentry
  exact ⟨found, hfound, hspan, hblocks, prompt, mem_of_promptIn? hprompt⟩

/-! ### The file of the note -/

namespace Vault

theorem located_of_gives_read (h : (vault.read path).Gives before text after) :
    ∃ spot file stored,
      before.tree.locate before.here (vault.diskPath path) = .ok (.found spot (.file file)) ∧
        file.decode = .ok stored ∧ text = unixLines stored ∧ after = before := by
  rw [read] at h
  simp only [readText, gives_bind_iff, gives_toDisk_iff, gives_locate_iff] at h
  obtain ⟨_, _, ⟨-, rfl, rfl⟩, _, session, ⟨-, rfl, rfl⟩, h⟩ := h
  cases hlocate : session.tree.locate session.here (vault.diskPath path) with
  | error error =>
    rw [hlocate] at h
    exact absurd h gives_throw_iff
  | ok location =>
    rw [hlocate] at h
    cases location with
    | vacant spot => exact absurd h gives_throw_iff
    | found spot node =>
      cases node with
      | folder => exact absurd h gives_throw_iff
      | file file =>
        dsimp only at h
        split at h
        · next stored hstored =>
          obtain ⟨rfl, rfl⟩ := gives_pure_iff.1 h
          exact ⟨spot, file, stored, rfl, hstored, rfl, rfl⟩
        · exact absurd h gives_throw_iff

/-- A changed note is written, and one that does not change is left alone. -/
theorem of_gives_fillPrompts [LocalZone]
    (h : (vault.fillPrompts path prompts moment values).Gives before filled after) :
    ∃ spot file stored shown,
      before.tree.locate before.here (vault.diskPath path) = .ok (.found spot (.file file)) ∧
        file.decode = .ok stored ∧ filled = fillNote prompts shown (unixLines stored) ∧
        after = if filled = unixLines stored then before
          else { before with tree := before.tree.set spot (.file (.text filled)) } := by
  rw [fillPrompts] at h
  obtain ⟨_, _, hread, hrest⟩ := gives_bind_iff.1 h
  obtain ⟨spot, file, stored, hspot, hstored, rfl, rfl⟩ := located_of_gives_read hread
  obtain ⟨shown, _, hshown, hwrite⟩ := gives_bind_iff.1 hrest
  obtain ⟨-, rfl⟩ := gives_ofExcept_iff.1 hshown
  dsimp only at hwrite
  split at hwrite
  · next hchanged =>
    obtain ⟨_, _, hmodify, hpure⟩ := gives_bind_iff.1 hwrite
    obtain ⟨rfl, rfl⟩ := gives_pure_iff.1 hpure
    obtain ⟨-, -, other, _, hother, rfl⟩ := gives_modifyNote_iff.1 hmodify
    obtain ⟨rfl, -⟩ := Location.found.inj (Except.ok.inj (hspot.symm.trans hother))
    exact ⟨spot, file, stored, shown, hspot, hstored, rfl, (if_neg hchanged).symm⟩
  · next hsame =>
    obtain ⟨rfl, rfl⟩ := gives_pure_iff.1 hwrite
    exact ⟨spot, file, stored, shown, hspot, hstored, rfl, (if_pos (not_not.1 hsame)).symm⟩

/-- Filling a note in place gave this text.  Afterwards the note is stored as it was, when
filling its text with line feeds changes nothing, or as that text with prompts replaced.  The
rest of the disk is as before, and so is everything else in the session. -/
structure FillsInPlace (vault : Vault) (path : Text) (prompts : List Prompt)
    (before after : Session) (filled : Text) (spot : List Text) (file : FileContent)
    (stored : Text) (replaced : List (Span Nat × Text)) : Prop where
  located : before.tree.locate before.here (vault.diskPath path) = .ok (.found spot (.file file))
  stands : before.tree.get? spot = some (.file file)
  decoded : file.decode = .ok stored
  replaces : ReplacesPrompts prompts (unixLines stored) filled replaced
  keepsFile : filled = unixLines stored → after.tree.get? spot = some (.file file)
  writesFile : filled ≠ unixLines stored → after.tree.get? spot = some (.file (.text filled))
  others : ∀ other ≠ spot, after.tree.get? other = before.tree.get? other
  rest : after = { before with tree := after.tree }

/-- Filling a note changes its prompts and its line ends, and nothing else.  Without carriage
returns its text with line feeds is the stored one, so then only prompts change. -/
theorem exists_fillsInPlace [LocalZone]
    (h : (vault.fillPrompts path prompts moment values).Gives before filled after) :
    ∃ spot file stored replaced,
      vault.FillsInPlace path prompts before after filled spot file stored replaced ∧
        (unixLines stored = stored ↔ '\r' ∉ stored) := by
  obtain ⟨spot, file, stored, shown, hspot, hstored, rfl, hafter⟩ := of_gives_fillPrompts h
  have hfile := DiskTree.get?_of_locateFrom_file (DiskTree.locateFrom_of_locate hspot)
  have hreplaces := replacesPrompts_fillNote prompts shown (unixLines stored)
  refine ⟨spot, file, stored, noteReplacements prompts shown (unixLines stored), ?_,
    unixLines_eq_self_iff⟩
  by_cases hsame : fillNote prompts shown (unixLines stored) = unixLines stored
  · rw [if_pos hsame] at hafter
    subst hafter
    exact ⟨hspot, hfile, hstored, hreplaces, fun _ => hfile, fun hne => absurd hsame hne,
      fun _ _ => rfl, rfl⟩
  · rw [if_neg hsame] at hafter
    subst hafter
    have hne : spot ≠ [] := by
      rintro rfl
      cases hfile
    exact ⟨hspot, hfile, hstored, hreplaces, fun heq => absurd heq hsame,
      fun _ => DiskTree.get?_set_of_ne_nil hne,
      fun other hother => DiskTree.get?_set_of_ne _ hother _, rfl⟩

end Vault

/-! ### A note with other line ends -/

section

attribute [local instance] LocalZone.utc

/-- A note whose lines end in a carriage return and a line feed. -/
def returnsNote : Text := "x\r\n\x7b% X %\x7d\r\n".toList

theorem gives_fillPrompts_returnsNote :
    (diary.fillPrompts "Start.md".toList [guestPrompt] dayMoment [(promptId 1, "v".toList)]).Gives
      (guestSession returnsNote) "x\nv\n".toList (guestSession "x\nv\n".toList) := by
  unfold Gives
  decide +kernel

theorem exists_fillsInPlace_returnsNote :
    (diary.fillPrompts "Start.md".toList [guestPrompt] dayMoment [(promptId 1, "v".toList)]).Gives
        (guestSession returnsNote) "x\nv\n".toList (guestSession "x\nv\n".toList) ∧
      ∃ spot file stored replaced,
        diary.FillsInPlace "Start.md".toList [guestPrompt] (guestSession returnsNote)
          (guestSession "x\nv\n".toList) "x\nv\n".toList spot file stored replaced ∧
        (unixLines stored = stored ↔ '\r' ∉ stored) :=
  ⟨gives_fillPrompts_returnsNote, Vault.exists_fillsInPlace gives_fillPrompts_returnsNote⟩

/-- The carriage returns are gone: what is stored afterwards is not the stored text with prompts
replaced, whatever they are replaced by. -/
theorem not_exists_replaces_returnsNote :
    (diary.fillPrompts "Start.md".toList [guestPrompt] dayMoment [(promptId 1, "v".toList)]).Gives
        (guestSession returnsNote) "x\nv\n".toList (guestSession "x\nv\n".toList) ∧
      ¬∃ replaced, Text.Replaces returnsNote 0 replaced "x\nv\n".toList ∧
        ∀ entry ∈ replaced, ∃ found ∈ promptTags returnsNote, found.span = entry.1 := by
  refine ⟨gives_fillPrompts_returnsNote, ?_⟩
  rintro ⟨replaced, hreplaces, htags⟩
  have houtside : ∀ found ∈ promptTags returnsNote,
      1 < found.span.start ∨ found.span.stop ≤ 1 := by decide +kernel
  have hkept : Text.IsKept replaced 1 := by
    intro entry hentry
    obtain ⟨found, hfound, hspan⟩ := htags entry hentry
    rw [← hspan]
    exact houtside found hfound
  have hchar := hreplaces.getElem?_placeFrom hkept (Nat.zero_le _) (by decide)
  have hmem : '\r' ∈ "x\nv\n".toList := List.mem_of_getElem? (hchar.trans (by decide))
  exact absurd hmem (by decide)

end

end NoteTemplate
