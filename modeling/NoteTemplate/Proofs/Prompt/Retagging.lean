import Mathlib.Data.List.Forall2
import NoteTemplate.Proofs.Prompt.Extracted
import NoteTemplate.Proofs.Prompt.PartedText
import NoteTemplate.Proofs.Prompt.Places
import NoteTemplate.Proofs.Text.Replacing

/-!
# Giving tags a new prompt

Tags of one name are replaced by the tag of a prompt.  A prompt that is read back from its tag
has no percent sign in it, so its tag is one tag with blanks or marks behind its opening, and
the other tags and all gaps stay what they were (`replaceTags_changes_named`).
-/

namespace NoteTemplate

variable {last text name : Text} {parts : List (Text × Text)}

/-! ### The inside of a written tag -/

/-- The inside of the tag that is written around a content. -/
def writtenInside (content : Text) (isOptional : Bool) : Text :=
  if isOptional then '?' :: ' ' :: content ++ [' ', '?'] else ' ' :: content ++ [' ']

theorem writeTag_eq_source (content : Text) (isOptional : Bool) :
    writeTag content isOptional = PromptTag.source (writtenInside content isOptional) := by
  cases isOptional <;> simp [writeTag, PromptTag.source, writtenInside]

theorem isInside_writtenInside {content : Text} (hpercent : '%' ∉ content) (isOptional : Bool) :
    IsInside (writtenInside content isOptional) := by
  cases isOptional <;> constructor <;> simp [writtenInside, hpercent]

theorem head?_writtenInside_ne (content : Text) (isOptional : Bool) :
    (writtenInside content isOptional).head? ≠ some '\x7d' := by
  cases isOptional <;> simp [writtenInside]

/-! ### Prompts that are read back -/

namespace Prompt

variable {prompt : Prompt} {next : Nat}

theorem promptName_subset (content : Text) : promptName content ⊆ content := by
  have hsubset {segment : Segment} (h : segment.text <+: content.drop segment.start) :
      segment.text ⊆ content :=
    fun c hc => (List.drop_sublist _ _).mem (h.sublist.mem hc)
  have hsplits := PromptContent.splits_ofText content
  rw [promptName]
  generalize PromptContent.ofText content = split at hsplits
  cases hsplits with
  | named hname => exact hsubset hname.isAt
  | typed hname _ _ => exact hsubset hname.isAt
  | detailed hname _ _ _ _ => exact hsubset hname.isAt

/-- What is written as the detail of a prompt that was read has no percent sign.  The name is no
part of the detail, so it may be any. -/
theorem percent_notMem_detailText {type? : Option ValueType} {detail : Text}
    (hdetail : IsDetail detail) (isOptional : Bool) :
    '%' ∉ (ofParts name type? detail isOptional).detailText := by
  have haccepted : NameProblem.ofName? "A".toList = none := by decide
  have htrimmed : Text.IsTrimmed "A".toList := by decide
  have hread : (ofParts "A".toList type? detail isOptional).IsReadFrom detail :=
    ⟨haccepted, htrimmed, hdetail, rfl, rfl, rfl⟩
  have hsame : (ofParts name type? detail isOptional).detailText =
      (ofParts "A".toList type? detail isOptional).detailText := rfl
  rw [hsame]
  by_cases hshared : (ofParts "A".toList type? detail isOptional).SharesWord
  · obtain ⟨half, preset, hmem, heq⟩ := hshared.exists_detailText
    rw [heq]
    exact (Half.isPlainWord_of_mem hmem).no_percent
  · exact (hread.isLegible hshared).isDetail_detailText.no_percent

theorem percent_notMem_content_of (hname : '%' ∉ prompt.name) (hdetail : '%' ∉ prompt.detailText) :
    '%' ∉ prompt.content := by
  have hword := (isPlainWord_word prompt.valueType).no_percent
  by_cases htype : prompt.valueType = .text
  · rwa [content_text htype]
  · by_cases hempty : prompt.detailText = []
    · rw [content_typed htype hempty]
      simp [hname, hword]
    · rw [content_detailed htype hempty]
      simp [hname, hword, hdetail]

theorem percent_notMem_content_ofContent {content : Text} (hne : promptName content ≠ [])
    (hpercent : '%' ∉ content) (isOptional : Bool) :
    '%' ∉ (ofContent content isOptional).content := by
  have hname : '%' ∉ (ofContent content isOptional).name :=
    fun hmem => hpercent (promptName_subset content hmem)
  obtain ⟨name, type?, detail, -, hdetail, heq⟩ := exists_ofContent_eq hne hpercent isOptional
  apply percent_notMem_content_of hname
  rw [heq]
  exact percent_notMem_detailText hdetail isOptional

theorem name_ne_nil_of_mem_promptsOfTagsFrom {seen : List Text} {tags : List TagOccurrence}
    (h : prompt ∈ promptsOfTagsFrom seen tags) : prompt.name ≠ [] := by
  induction tags generalizing seen with
  | nil => simp [promptsOfTagsFrom] at h
  | cons first tags ih =>
    simp only [promptsOfTagsFrom] at h
    split at h
    · exact ih h
    · next hnew =>
      rcases List.mem_cons.1 h with rfl | h
      · intro hempty
        simp [hempty] at hnew
      · exact ih h

/-- A prompt that is read back from its tag is that of one of the tags of its tag. -/
theorem exists_tag_of_readBack
    (h : (extractPrompts next prompt.tag).1.map question = [prompt.question]) :
    ∃ found ∈ promptTags prompt.tag, found.prompt.question = prompt.question ∧
      found.prompt.name ≠ [] := by
  obtain ⟨numbered, hnumbered, hquestion⟩ := List.mem_map.1
    (h ▸ List.mem_singleton_self prompt.question)
  obtain ⟨plain, hplain, id, rfl⟩ := exists_numbered hnumbered
  have hname := name_ne_nil_of_mem_promptsOfTagsFrom hplain
  obtain ⟨found, hfound, rfl⟩ := exists_tag_of_mem_promptsOfTagsFrom hplain
  exact ⟨found, hfound, hquestion, hname⟩

theorem percent_notMem_content_of_readBack
    (h : (extractPrompts next prompt.tag).1.map question = [prompt.question]) :
    '%' ∉ prompt.content := by
  obtain ⟨found, hfound, hquestion, hname⟩ := exists_tag_of_readBack h
  have hcontent : found.prompt.question.content = prompt.question.content :=
    congrArg content hquestion
  have hsame (other : Prompt) : other.question.content = other.content := rfl
  rw [← hsame, ← hcontent, hsame]
  exact percent_notMem_content_ofContent hname (percent_notMem_content hfound) _

/-- The tag of a prompt that is read back is one tag, which asks its question. -/
theorem ofInside_of_readBack {found : TagOccurrence}
    (h : (extractPrompts next prompt.tag).1.map question = [prompt.question])
    (hvalue : found.value = PromptTag.ofInside (writtenInside prompt.content prompt.isOptional)) :
    found.prompt.question = prompt.question := by
  have hinside := isInside_writtenInside (percent_notMem_content_of_readBack h) prompt.isOptional
  obtain ⟨only, honly, hquestion, -⟩ := exists_tag_of_readBack h
  have htags := promptTags_of_inside hinside.no_percent hinside.ne_nil
  rw [tag, writeTag_eq_source, PromptTag.source, htags, List.mem_singleton] at honly
  rw [← hquestion, honly, TagOccurrence.prompt, TagOccurrence.prompt, hvalue]

end Prompt

/-! ### Replacing tags of a parted text -/

/-- The insides with those of the tags that are chosen replaced. -/
def retagged (chosen : PromptTag → Bool) (replacement inside : Text) : Text :=
  if chosen (PromptTag.ofInside inside) then replacement else inside

theorem AreParted.retagged {replacement : Text} (h : AreParted last parts)
    (hinside : IsInside replacement) (hbrace : replacement.head? ≠ some '\x7d')
    (chosen : PromptTag → Bool) :
    AreParted last (parts.map (Prod.map id (retagged chosen replacement))) := by
  apply h.map
  · intro inside hold
    rw [NoteTemplate.retagged]
    split
    · exact hinside
    · exact hold
  · intro inside
    rw [NoteTemplate.retagged]
    split
    · exact fun hhead => absurd hhead hbrace
    · exact id

/-- Replacing chosen tags gives them another inside.  `kept` is what was passed over since the
last replacement. -/
theorem replaceSpansFrom_joinTags (chosen : PromptTag → Bool) (replacement last kept : Text)
    (parts : List (Text × Text)) (pos : Nat) :
    Text.replaceSpansFrom pos (((tagsFrom (pos + kept.length) parts).filter fun found =>
        chosen found.value).map fun found => (found.span, PromptTag.source replacement))
      (kept ++ joinTags last parts) =
      kept ++ joinTags last (parts.map (Prod.map id (retagged chosen replacement))) := by
  induction parts generalizing kept pos with
  | nil => rfl
  | cons part more ih =>
    obtain ⟨gap, inside⟩ := part
    have hstart : pos + kept.length + gap.length = pos + (kept ++ gap).length := by
      rw [List.length_append, Nat.add_assoc]
    rw [tagsFrom, List.map_cons, Prod.map_apply, id, append_joinTags_cons, append_joinTags_cons,
      hstart, List.filter_cons]
    cases hchosen : chosen (PromptTag.ofInside inside) with
    | true =>
      have hlater := ih [] (pos + (kept ++ gap).length + (PromptTag.source inside).length)
      rw [List.length_nil, Nat.add_zero, List.nil_append, List.nil_append] at hlater
      rw [if_pos rfl, List.map_cons, Text.replaceSpansFrom_behind, hlater, retagged, if_pos hchosen]
    | false =>
      have hlater := ih (kept ++ gap ++ PromptTag.source inside) pos
      rw [List.length_append, ← Nat.add_assoc] at hlater
      rw [if_neg Bool.false_ne_true, hlater, retagged, if_neg (by rw [hchosen]; simp)]

/-- The tag behind a gap, as it is written. -/
theorem slice_joinTags (front gap inside last : Text) (more : List (Text × Text)) :
    Text.slice (front ++ joinTags last ((gap, inside) :: more)) (front.length + gap.length)
      (front.length + gap.length + (PromptTag.source inside).length) = PromptTag.source inside := by
  rw [append_joinTags_cons]
  apply Text.slice_eq_of_prefix_drop
  rw [← List.length_append, List.append_assoc, List.drop_left]
  exact List.prefix_append _ _

/-- The tags of a text and those of the text with other insides stand side by side. -/
theorem forall₂_tagsFrom (change : Text → Text) (last : Text) (parts : List (Text × Text)) :
    List.Forall₂ (fun old new => ∃ inside,
        old.value = PromptTag.ofInside inside ∧
        old.span.of (joinTags last parts) = PromptTag.source inside ∧
        new.value = PromptTag.ofInside (change inside) ∧
        new.span.of (joinTags last (parts.map (Prod.map id change))) =
          PromptTag.source (change inside))
      (tagsFrom 0 parts) (tagsFrom 0 (parts.map (Prod.map id change))) := by
  have hfrom (front other : Text) : List.Forall₂ (fun old new => ∃ inside,
        old.value = PromptTag.ofInside inside ∧
        old.span.of (front ++ joinTags last parts) = PromptTag.source inside ∧
        new.value = PromptTag.ofInside (change inside) ∧
        new.span.of (other ++ joinTags last (parts.map (Prod.map id change))) =
          PromptTag.source (change inside))
      (tagsFrom front.length parts)
      (tagsFrom other.length (parts.map (Prod.map id change))) := by
    induction parts generalizing front other with
    | nil => exact .nil
    | cons part more ih =>
      obtain ⟨gap, inside⟩ := part
      have hlater := ih (front ++ gap ++ PromptTag.source inside)
        (other ++ gap ++ PromptTag.source (change inside))
      simp only [List.length_append, ← append_joinTags_cons] at hlater
      rw [List.map_cons, Prod.map_apply, id, tagsFrom, tagsFrom]
      exact .cons ⟨inside, rfl, slice_joinTags _ _ _ _ _, rfl, slice_joinTags _ _ _ _ _⟩ hlater
  exact hfrom [] []

/-! ### The named tags -/

/-- Tags of the name get the tag of a prompt that is read back from it.  Then the text has as many
tags as before, in the same order and with the same gaps around them; those of the name ask the
question of the prompt, and the others are what they were. -/
theorem replaceTags_changes_named (text name : Text) (prompt : Prompt) (next : Nat)
    (hback : (extractPrompts next prompt.tag).1.map Prompt.question = [prompt.question]) :
    let out := replaceTags (promptTags text) name prompt text
    out.gaps ((promptTags out).map Occurrence.span) =
      text.gaps ((promptTags text).map Occurrence.span) ∧
    List.Forall₂ (fun old new =>
        if Text.lower (promptName old.value.content) = Text.lower (Text.trim name) then
          new.span.of out = prompt.tag ∧ new.prompt.question = prompt.question
        else new.span.of out = old.span.of text)
      (promptTags text) (promptTags out) := by
  intro out
  obtain ⟨last, parts, rfl, hparted⟩ := exists_parted text
  have hinside := isInside_writtenInside (Prompt.percent_notMem_content_of_readBack hback)
    prompt.isOptional
  have hbrace := head?_writtenInside_ne prompt.content prompt.isOptional
  let isNamed (tag : PromptTag) : Bool :=
    decide (Text.lower (promptName tag.content) = Text.lower (Text.trim name))
  let change := retagged isNamed (writtenInside prompt.content prompt.isOptional)
  have hout : out = joinTags last (parts.map (Prod.map id change)) := by
    have hreplaced := replaceSpansFrom_joinTags isNamed
      (writtenInside prompt.content prompt.isOptional) last [] parts 0
    rw [← writeTag_eq_source, List.length_nil, Nat.add_zero, ← hparted.promptTags_joinTags]
      at hreplaced
    exact hreplaced
  have hretagged := hparted.retagged hinside hbrace isNamed
  rw [hout, hretagged.promptTags_joinTags, hparted.promptTags_joinTags, gaps_joinTags,
    gaps_joinTags]
  refine ⟨?_, (forall₂_tagsFrom change last parts).imp ?_⟩
  · rw [List.map_map]
    rfl
  · rintro old new ⟨inside, hold, holdSpan, hnew, hnewSpan⟩
    rw [hold, hnewSpan, holdSpan]
    by_cases hnamed : isNamed (PromptTag.ofInside inside) = true
    · have hchange : change inside = writtenInside prompt.content prompt.isOptional :=
        if_pos hnamed
      rw [if_pos (of_decide_eq_true hnamed), hchange]
      rw [hchange] at hnew
      exact ⟨(writeTag_eq_source _ _).symm, Prompt.ofInside_of_readBack hback hnew⟩
    · have hchange : change inside = inside := if_neg hnamed
      rw [if_neg fun hname => hnamed (decide_eq_true hname), hchange]

/-- A required number with the name of a prompt. -/
def agePrompt : Prompt where
  name := "Age".toList
  valueType := .numeric
  isOptional := false
  dateConfig := none
  timeConfig := none
  options := none
  id := []
  isInlineConfigured := true

/-- An unclosed opening, a tag of the name, a brace, and a tag of another name. -/
def formText : Text := "\x7b% \x7b%? age ?%\x7d\x7d \x7b%Name%\x7d".toList

theorem replaceTags_changes_age :
    (extractPrompts 0 agePrompt.tag).1.map Prompt.question = [agePrompt.question] ∧
    replaceTags (promptTags formText) " AGE".toList agePrompt formText =
      "\x7b% \x7b% Age:number %\x7d\x7d \x7b%Name%\x7d".toList ∧
    let out := replaceTags (promptTags formText) " AGE".toList agePrompt formText
    out.gaps ((promptTags out).map Occurrence.span) =
      formText.gaps ((promptTags formText).map Occurrence.span) ∧
    List.Forall₂ (fun old new =>
        if Text.lower (promptName old.value.content) = Text.lower (Text.trim " AGE".toList) then
          new.span.of out = agePrompt.tag ∧ new.prompt.question = agePrompt.question
        else new.span.of out = old.span.of formText)
      (promptTags formText) (promptTags out) := by
  have hback : (extractPrompts 0 agePrompt.tag).1.map Prompt.question = [agePrompt.question] := by
    decide +kernel
  exact ⟨hback, by decide +kernel, replaceTags_changes_named formText _ agePrompt 0 hback⟩

end NoteTemplate
