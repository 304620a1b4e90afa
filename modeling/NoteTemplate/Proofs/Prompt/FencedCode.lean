import NoteTemplate.Proofs.Markdown.Lookup
import NoteTemplate.Proofs.Prompt.Grammar
import NoteTemplate.Proofs.Text.Replacing
import NoteTemplate.Proofs.Title.Holes

/-!
# Filling a note around its code blocks

When a note is filled, a tag counts if it starts outside the code blocks.  Such a tag meets
a block only by reaching into it: it starts in front of the block and ends behind the start
of the block.  A block that no filled tag reaches into is kept with all its characters.
-/

namespace NoteTemplate

variable {prompts : List Prompt} {values : PromptValues} {text : Text}

/-- The stretches that are replaced when tags are filled, and what they are replaced by. -/
def tagReplacements (tags : List TagOccurrence) (prompts : List Prompt) (values : PromptValues) :
    List (Span Nat × Text) :=
  tags.filterMap fun found =>
    (found.promptIn? prompts).map fun asked => (found.span, asked.answer values)

theorem pairwise_tagReplacements {tags : List TagOccurrence}
    (hordered : tags.Pairwise fun left right => left.span.stop ≤ right.span.start)
    (prompts : List Prompt) (values : PromptValues) :
    (tagReplacements tags prompts values).Pairwise fun left right =>
      left.1.stop ≤ right.1.start := by
  apply hordered.filterMap
  intro found other hle entry hentry later hlater
  obtain ⟨_, -, rfl⟩ := Option.map_eq_some_iff.1 hentry
  obtain ⟨_, -, rfl⟩ := Option.map_eq_some_iff.1 hlater
  exact hle

/-- The stretches that are replaced when a note is filled, and what they are replaced by. -/
def noteReplacements (prompts : List Prompt) (values : PromptValues) (text : Text) :
    List (Span Nat × Text) :=
  (promptTagsOutsideCode text).filterMap fun found =>
    (found.promptIn? prompts).map fun asked => (found.span, asked.answer values)

theorem fillNote_eq_replaceSpans (prompts : List Prompt) (values : PromptValues) (text : Text) :
    fillNote prompts values text =
      Text.replaceSpansFrom 0 (noteReplacements prompts values text) text := rfl

theorem mem_noteReplacements_iff {span : Span Nat} {value : Text} :
    (span, value) ∈ noteReplacements prompts values text ↔
      ∃ found ∈ promptTags text, found.span = span ∧
        (∀ block ∈ codeBlocks text, ¬block.Holds found.span.start) ∧
        ∃ asked, found.promptIn? prompts = some asked ∧ asked.answer values = value := by
  simp only [noteReplacements, List.mem_filterMap, Option.map_eq_some_iff, Prod.mk.injEq]
  constructor
  · rintro ⟨found, hfound, asked, hasked, hspan, hvalue⟩
    obtain ⟨htag, hblocks⟩ := mem_promptTagsOutsideCode_iff.1 hfound
    exact ⟨found, htag, hspan, hblocks, asked, hasked, hvalue⟩
  · rintro ⟨found, htag, hspan, hblocks, asked, hasked, hvalue⟩
    exact ⟨found, mem_promptTagsOutsideCode_iff.2 ⟨htag, hblocks⟩, asked, hasked, hspan, hvalue⟩

theorem start_lt_stop_of_mem_promptTags {found : TagOccurrence} (h : found ∈ promptTags text) :
    found.span.start < found.span.stop := by
  have hlength := (isFenced_of_mem_promptTags h).length
  omega

theorem start_lt_stop_of_mem_noteReplacements {entry : Span Nat × Text}
    (h : entry ∈ noteReplacements prompts values text) : entry.1.start < entry.1.stop := by
  obtain ⟨found, hfound, hspan, -⟩ := mem_noteReplacements_iff.1 h
  rw [← hspan]
  exact start_lt_stop_of_mem_promptTags hfound

theorem pairwise_noteReplacements (prompts : List Prompt) (values : PromptValues) (text : Text) :
    (noteReplacements prompts values text).Pairwise fun left right =>
      left.1.stop ≤ right.1.start :=
  pairwise_tagReplacements (pairwise_promptTagsOutsideCode text) prompts values

theorem replaces_fillNote (prompts : List Prompt) (values : PromptValues) (text : Text) :
    Text.Replaces text 0 (noteReplacements prompts values text)
      (fillNote prompts values text) := by
  rw [fillNote_eq_replaceSpans]
  apply Text.replaces_replaceSpansFrom (pairwise_noteReplacements prompts values text)
  · exact fun entry hentry => Nat.le_of_lt (start_lt_stop_of_mem_noteReplacements hentry)
  · exact fun entry _ => Nat.zero_le _

/-- A block is kept when no stretch that is replaced reaches into it from the front. -/
theorem forall_isKept_iff {block : CodeBlock} (hblock : block ∈ codeBlocks text) :
    (∀ pos : Nat, block.Holds pos → Text.IsKept (noteReplacements prompts values text) pos) ↔
      ∀ entry ∈ noteReplacements prompts values text,
        ¬(entry.1.start < block.start ∧ block.start < entry.1.stop) := by
  have hlength := (areBlocks_codeBlocks text).start_le_stop block hblock
  constructor
  · intro hkept entry hentry hreach
    have hstart : block.Holds block.start := ⟨Int.le_refl _, by omega⟩
    rcases hkept block.start hstart entry hentry with hlt | hle
    · omega
    · omega
  · intro hreach pos hholds entry hentry
    obtain ⟨found, -, hspan, houtside, -⟩ := mem_noteReplacements_iff.1 hentry
    have hnot := houtside block hblock
    rw [hspan, CodeBlock.Holds] at hnot
    have hfree := hreach entry hentry
    rw [CodeBlock.Holds] at hholds
    omega

/-- Filling a note replaces the tags that start outside code and ask for one of the prompts, and
nothing else.  Every other character keeps its order and its neighbours, and so does a whole
code block when none of these tags starts in front of it and ends inside or behind it. -/
theorem exists_replaces_fillNote (prompts : List Prompt) (values : PromptValues) (text : Text) :
    ∃ replaced, Text.Replaces text 0 replaced (fillNote prompts values text) ∧
      (∀ span value, (span, value) ∈ replaced ↔ ∃ found ∈ promptTags text, found.span = span ∧
        (∀ block ∈ codeBlocks text, ¬block.Holds found.span.start) ∧
        ∃ asked, found.promptIn? prompts = some asked ∧ asked.answer values = value) ∧
      (∀ block ∈ codeBlocks text,
        (∀ pos : Nat, block.Holds pos → Text.IsKept replaced pos) ↔
          ∀ entry ∈ replaced, ¬(entry.1.start < block.start ∧ block.start < entry.1.stop)) ∧
      ∃ place, Text.KeepsAt text (fillNote prompts values text) (Text.IsKept replaced) place := by
  have hreplaces := replaces_fillNote prompts values text
  refine ⟨_, hreplaces, fun span value => mem_noteReplacements_iff,
    fun block hblock => forall_isKept_iff hblock, _, hreplaces.keepsAt ?_⟩
  exact fun entry hentry => start_lt_stop_of_mem_noteReplacements hentry

/-! ### A tag that reaches into a block -/

/-- A tag that starts in front of a code block and ends in it. -/
def reachingNote : Text := "\x7b% X:\n\x60\x60\x60\n%\x7d\n\x60\x60\x60".toList

/-- The prompt that the tag asks for. -/
def reachingPrompt : Prompt := { Prompt.ofContent "X".toList false with id := promptId 1 }

theorem codeBlocks_reachingNote : codeBlocks reachingNote = [⟨6, 16⟩] := by
  decide +kernel

theorem fillNote_reachingNote : fillNote [reachingPrompt] [(promptId 1, "v".toList)] reachingNote =
    "v\n\x60\x60\x60".toList := by
  decide +kernel

/-- The tag is filled, and the opening fence and the code go with it: no row of replaced
stretches that leave the block alone gives this note. -/
theorem not_exists_replaces_reachingNote :
    ¬∃ replaced,
      Text.Replaces reachingNote 0 replaced
        (fillNote [reachingPrompt] [(promptId 1, "v".toList)] reachingNote) ∧
      ∀ block ∈ codeBlocks reachingNote, ∀ pos : Nat, block.Holds pos →
        Text.IsKept replaced pos := by
  rintro ⟨replaced, hreplaces, hkept⟩
  rw [codeBlocks_reachingNote] at hkept
  rw [fillNote_reachingNote] at hreplaces
  have hpercent := hkept _ List.mem_cons_self 10 ⟨by decide, by decide⟩
  have hchar := hreplaces.getElem?_placeFrom hpercent (Nat.zero_le _) (by decide)
  have hmem : '%' ∈ "v\n\x60\x60\x60".toList := List.mem_of_getElem? (hchar.trans (by decide))
  exact absurd hmem (by decide)

end NoteTemplate
