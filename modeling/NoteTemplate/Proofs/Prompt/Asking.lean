import NoteTemplate.Proofs.Prompt.FencedCode

/-!
# What is asked is what is filled

The prompts of a text and the stretches that are filled in it are both found from its tags,
but on different ways: a prompt is the whole reading of a tag, while a stretch is matched with
a prompt by the name of its tag alone.  Both ways take the same tags: each name is asked once
(`AsksFor`), and every tag with a name is filled with the answer to its question (`FillsTags`).
-/

namespace NoteTemplate

namespace TagOccurrence

/-- The name that a tag gives to its prompt. -/
def name (found : TagOccurrence) : Text := promptName found.value.content

/-- The name as it is compared with others. -/
def key (found : TagOccurrence) : Text := Text.lower found.name

/-- A tag without a name asks nothing. -/
def isNamed (found : TagOccurrence) : Bool := !found.name.isEmpty

@[simp]
theorem name_prompt (found : TagOccurrence) : found.prompt.name = found.name := rfl

@[simp]
theorem key_prompt (found : TagOccurrence) : found.prompt.key = found.key := rfl

@[simp]
theorem isNamed_iff {found : TagOccurrence} : found.isNamed = true ↔ found.name ≠ [] := by
  simp [isNamed]

end TagOccurrence

/-- A row of tags asks for these prompts: for each name once, in the order in which the names
first appear, and each prompt is read from the first tag with its name.  Only the identifiers
are left open. -/
structure AsksFor (tags : List TagOccurrence) (asked : List Prompt) : Prop where
  keys : asked.map Prompt.key =
    ((tags.filter TagOccurrence.isNamed).map TagOccurrence.key).eraseDups
  first : ∀ prompt ∈ asked, ∃ found,
    (tags.filter TagOccurrence.isNamed).find? (fun found => found.key = prompt.key) = some found ∧
      prompt = { found.prompt with id := prompt.id }

/-- The stretch of a tag is replaced by the answer to a prompt with its name. -/
def IsAnswered (asked : List Prompt) (values : PromptValues) (found : TagOccurrence)
    (entry : Span Nat × Text) : Prop :=
  entry.1 = found.span ∧ ∃ prompt ∈ asked, prompt.key = found.key ∧
    entry.2 = prompt.answer values

/-- A text is filled at its tags: every tag with a name is replaced by its answer, and all the
rest is kept, the tags without a name too. -/
structure FillsTags (tags : List TagOccurrence) (asked : List Prompt) (values : PromptValues)
    (text filled : Text) (replaced : List (Span Nat × Text)) : Prop where
  answered : List.Forall₂ (IsAnswered asked values) (tags.filter TagOccurrence.isNamed) replaced
  replaces : Text.Replaces text 0 replaced filled
  keeps : ∃ place, Text.KeepsAt text filled (Text.IsKept replaced) place
  unnamed : ∀ found ∈ tags, found.name = [] →
    ∀ pos, found.span.start ≤ pos → pos < found.span.stop → Text.IsKept replaced pos

/-! ### Asking -/

section

variable {seen : List Text} {tags : List TagOccurrence} {prompt : Prompt} {next : Nat}

theorem promptsOfTagsFrom_cons_of_not (found : TagOccurrence)
    (h : found.isNamed = true → found.key ∈ seen) :
    promptsOfTagsFrom seen (found :: tags) = promptsOfTagsFrom seen tags := by
  have hskip : (found.prompt.name.isEmpty || seen.contains found.prompt.key) = true := by
    by_cases hname : found.name = []
    · simp [hname]
    · simp [h (TagOccurrence.isNamed_iff.2 hname)]
  rw [promptsOfTagsFrom]
  exact if_pos hskip

theorem promptsOfTagsFrom_cons_of_new {found : TagOccurrence} (hnamed : found.isNamed = true)
    (hnew : found.key ∉ seen) :
    promptsOfTagsFrom seen (found :: tags) =
      found.prompt :: promptsOfTagsFrom (found.key :: seen) tags := by
  have hname := TagOccurrence.isNamed_iff.1 hnamed
  have hask : ¬(found.prompt.name.isEmpty || seen.contains found.prompt.key) = true := by
    simp [hname, hnew]
  rw [promptsOfTagsFrom]
  exact if_neg hask

/-- Each name that was not met before is asked once. -/
theorem map_key_promptsOfTagsFrom (seen : List Text) (tags : List TagOccurrence) :
    (promptsOfTagsFrom seen tags).map Prompt.key =
      (((tags.filter TagOccurrence.isNamed).map TagOccurrence.key).filter
        fun key => !seen.contains key).eraseDups := by
  induction tags generalizing seen with
  | nil => rfl
  | cons found tags ih =>
    cases hnamed : found.isNamed with
    | false =>
      rw [promptsOfTagsFrom_cons_of_not found (by simp [hnamed]), ih, List.filter_cons_of_neg]
      simp [hnamed]
    | true =>
      rw [List.filter_cons_of_pos hnamed, List.map_cons]
      by_cases hseen : found.key ∈ seen
      · rw [promptsOfTagsFrom_cons_of_not found fun _ => hseen, ih, List.filter_cons_of_neg]
        simpa using hseen
      · rw [promptsOfTagsFrom_cons_of_new hnamed hseen, List.map_cons, ih,
          List.filter_cons_of_pos (by simpa using hseen), List.eraseDups_cons, List.filter_filter]
        refine congrArg (found.key :: ·) (congrArg List.eraseDups (List.filter_congr ?_))
        intro key _
        rw [List.contains_cons, Bool.not_or]

theorem find?_of_mem_promptsOfTagsFrom (h : prompt ∈ promptsOfTagsFrom seen tags) :
    ∃ found, (tags.filter TagOccurrence.isNamed).find? (fun found => found.key = prompt.key) =
      some found ∧ prompt = found.prompt := by
  induction tags generalizing seen with
  | nil => cases h
  | cons found tags ih =>
    by_cases hskip : found.isNamed = true → found.key ∈ seen
    · have hnew := (nodup_key_promptsOfTagsFrom seen (found :: tags)).2 prompt h
      rw [promptsOfTagsFrom_cons_of_not found hskip] at h
      obtain ⟨first, hfirst, heq⟩ := ih h
      refine ⟨first, ?_, heq⟩
      rw [List.filter_cons]
      split
      · next hnamed =>
        have hne : found.key ≠ prompt.key := fun hkey => hnew (hkey ▸ hskip hnamed)
        rw [List.find?_cons_of_neg (by simpa using hne), hfirst]
      · exact hfirst
    · obtain ⟨hnamed, hnew⟩ := Classical.not_imp.1 hskip
      rw [promptsOfTagsFrom_cons_of_new hnamed hnew] at h
      rw [List.filter_cons_of_pos hnamed]
      rcases List.mem_cons.1 h with rfl | h
      · exact ⟨found, List.find?_cons_of_pos (by simp), rfl⟩
      · have hne : found.key ≠ prompt.key := fun hkey =>
          (nodup_key_promptsOfTagsFrom _ tags).2 prompt h (hkey ▸ List.mem_cons_self)
        obtain ⟨first, hfirst, heq⟩ := ih h
        exact ⟨first, (List.find?_cons_of_neg (by simpa using hne)).trans hfirst, heq⟩

theorem exists_of_mem_numberPrompts {prompts : List Prompt}
    (h : prompt ∈ numberPrompts next prompts) :
    ∃ asked ∈ prompts, prompt = { asked with id := prompt.id } := by
  induction prompts generalizing next with
  | nil => cases h
  | cons asked prompts ih =>
    rcases List.mem_cons.1 h with rfl | h
    · exact ⟨asked, List.mem_cons_self, rfl⟩
    · obtain ⟨other, hother, heq⟩ := ih h
      exact ⟨other, List.mem_cons_of_mem _ hother, heq⟩

theorem asksFor_numberPrompts (next : Nat) (tags : List TagOccurrence) :
    AsksFor tags (numberPrompts next (promptsOfTags tags)) where
  keys := by
    rw [map_key_numberPrompts, promptsOfTags, map_key_promptsOfTagsFrom]
    simp
  first prompt hprompt := by
    obtain ⟨asked, hasked, heq⟩ := exists_of_mem_numberPrompts hprompt
    obtain ⟨found, hfound, rfl⟩ := find?_of_mem_promptsOfTagsFrom hasked
    refine ⟨found, ?_, heq⟩
    rw [heq]
    exact hfound

end

/-! ### Filling -/

section

variable {tags : List TagOccurrence} {asked : List Prompt} {values : PromptValues}
  {text : Text} {found : TagOccurrence}

theorem promptIn?_of_not_isNamed (h : ¬found.isNamed = true) : found.promptIn? asked = none := by
  have hname : promptName found.value.content = [] := by
    rw [TagOccurrence.isNamed_iff, not_not] at h
    exact h
  rw [TagOccurrence.promptIn?, hname]
  rfl

/-- A tag with a name finds a prompt of that name among those that its row asks for. -/
theorem AsksFor.exists_promptIn? (h : AsksFor tags asked) (hfound : found ∈ tags)
    (hnamed : found.isNamed = true) :
    ∃ prompt ∈ asked, prompt.key = found.key ∧ found.promptIn? asked = some prompt := by
  have hkey : found.key ∈ asked.map Prompt.key := by
    rw [h.keys, List.mem_eraseDups]
    exact List.mem_map_of_mem (List.mem_filter.2 ⟨hfound, hnamed⟩)
  obtain ⟨asks, hasks, heq⟩ := List.mem_map.1 hkey
  have hsome : (Prompt.find? asked found.key).isSome = true :=
    List.find?_isSome.2 ⟨asks, List.mem_reverse.2 hasks, by simpa using heq⟩
  obtain ⟨prompt, hprompt⟩ := Option.isSome_iff_exists.1 hsome
  have hname : (promptName found.value.content).isEmpty = false :=
    List.isEmpty_eq_false_iff.2 (TagOccurrence.isNamed_iff.1 hnamed)
  refine ⟨prompt, List.mem_reverse.1 (List.mem_of_find?_eq_some hprompt),
    Prompt.key_of_find? hprompt, ?_⟩
  rw [TagOccurrence.promptIn?, hname]
  exact hprompt

theorem AsksFor.answered (h : AsksFor tags asked) (values : PromptValues) :
    List.Forall₂ (IsAnswered asked values) (tags.filter TagOccurrence.isNamed)
      (tagReplacements tags asked values) := by
  have hall : ∀ row : List TagOccurrence, row ⊆ tags →
      List.Forall₂ (IsAnswered asked values) (row.filter TagOccurrence.isNamed)
        (tagReplacements row asked values) := by
    intro row hrow
    induction row with
    | nil => exact .nil
    | cons found row ih =>
      obtain ⟨hfound, hrow⟩ := List.cons_subset.1 hrow
      by_cases hnamed : found.isNamed = true
      · obtain ⟨prompt, hprompt, hkey, hasked⟩ := h.exists_promptIn? hfound hnamed
        rw [List.filter_cons_of_pos hnamed, tagReplacements, List.filterMap_cons, hasked]
        exact .cons ⟨rfl, prompt, hprompt, hkey, rfl⟩ (ih hrow)
      · rw [List.filter_cons_of_neg hnamed, tagReplacements, List.filterMap_cons,
          promptIn?_of_not_isNamed hnamed]
        exact ih hrow
  exact hall tags (List.Subset.refl tags)

theorem exists_of_mem_tagReplacements {entry : Span Nat × Text}
    (h : entry ∈ tagReplacements tags asked values) :
    ∃ found ∈ tags, found.isNamed = true ∧ entry.1 = found.span := by
  obtain ⟨found, hfound, heq⟩ := List.mem_filterMap.1 h
  obtain ⟨prompt, hprompt, rfl⟩ := Option.map_eq_some_iff.1 heq
  refine ⟨found, hfound, ?_, rfl⟩
  by_contra hnamed
  rw [promptIn?_of_not_isNamed hnamed] at hprompt
  cases hprompt

theorem fillTags_final (tags : List TagOccurrence) (asked : List Prompt) (values : PromptValues)
    (text : Text) :
    fillTags .final tags asked values text =
      Text.replaceSpansFrom 0 (tagReplacements tags asked values) text := rfl

/-- Tags that stand in order and ask for these prompts are filled with their answers. -/
theorem AsksFor.fillsTags (h : AsksFor tags asked)
    (hordered : tags.Pairwise fun left right => left.span.stop ≤ right.span.start)
    (hlength : ∀ found ∈ tags, found.span.start < found.span.stop) (values : PromptValues)
    (text : Text) :
    FillsTags tags asked values text (fillTags .final tags asked values text)
      (tagReplacements tags asked values) := by
  have hspans : ∀ entry ∈ tagReplacements tags asked values, entry.1.start < entry.1.stop := by
    intro entry hentry
    obtain ⟨found, hfound, -, heq⟩ := exists_of_mem_tagReplacements hentry
    rw [heq]
    exact hlength found hfound
  have hreplaces : Text.Replaces text 0 (tagReplacements tags asked values)
      (fillTags .final tags asked values text) := by
    rw [fillTags_final]
    exact Text.replaces_replaceSpansFrom (pairwise_tagReplacements hordered asked values)
      (fun entry hentry => Nat.le_of_lt (hspans entry hentry)) (fun _ _ => Nat.zero_le _) text
  refine ⟨h.answered values, hreplaces, ⟨_, hreplaces.keepsAt hspans⟩, ?_⟩
  intro found hfound hname pos hstart hstop entry hentry
  obtain ⟨other, hother, hnamed, heq⟩ := exists_of_mem_tagReplacements hentry
  rw [heq]
  rcases eq_or_apart_of_ordered hordered hfound hother with rfl | hbehind | hfront
  · exact absurd hname (TagOccurrence.isNamed_iff.1 hnamed)
  · exact Or.inl (Nat.lt_of_lt_of_le hstop hbehind)
  · exact Or.inr (Nat.le_trans hfront hstart)

theorem AsksFor.hasNamedTag_iff (h : AsksFor tags asked) :
    hasNamedTag tags = true ↔ asked ≠ [] := by
  rw [hasNamedTag, List.any_eq_true]
  constructor
  · rintro ⟨found, hfound, hnamed⟩
    obtain ⟨prompt, hprompt, -⟩ := h.exists_promptIn? hfound hnamed
    exact List.ne_nil_of_mem hprompt
  · intro hne
    obtain ⟨prompt, hprompt⟩ := List.exists_mem_of_ne_nil asked hne
    obtain ⟨found, hfirst, -⟩ := h.first prompt hprompt
    exact ⟨found, List.mem_filter.1 (List.mem_of_find?_eq_some hfirst)⟩

end

/-! ### Asking and filling together -/

/-- The prompts of a text, whether it has any, and how it is filled agree on its tags. -/
structure AgreesOn (tags : List TagOccurrence) (text : Text) (asked : List Prompt) (has : Bool)
    (fill : PromptValues → Text) : Prop where
  asks : AsksFor tags asked
  has_iff : has = true ↔ asked ≠ []
  fills : ∀ values, ∃ replaced, FillsTags tags asked values text (fill values) replaced

theorem agreesOn_fillTags {tags : List TagOccurrence}
    (hordered : tags.Pairwise fun left right => left.span.stop ≤ right.span.start)
    (hlength : ∀ found ∈ tags, found.span.start < found.span.stop) (next : Nat) (text : Text) :
    AgreesOn tags text (numberPrompts next (promptsOfTags tags)) (hasNamedTag tags) fun values =>
      fillTags .final tags (numberPrompts next (promptsOfTags tags)) values text :=
  have hasks := asksFor_numberPrompts next tags
  ⟨hasks, hasks.hasNamedTag_iff, fun values => ⟨_, hasks.fillsTags hordered hlength values text⟩⟩

theorem countPrompts_eq (next : Nat) (text : Text) :
    countPrompts text = (extractPrompts next text).1.length := by
  simp [countPrompts, extractPrompts]

/-- What a text asks is what is filled in it, for a title at all its tags, and for a note at
those tags that start outside code. -/
theorem agreesOn_extractPrompts (next : Nat) (text : Text) :
    AgreesOn (promptTags text) text (extractPrompts next text).1 (hasPrompts text)
        (fun values => fillTitle .final (extractPrompts next text).1 values text) ∧
      countPrompts text = (extractPrompts next text).1.length ∧
      (promptTagsOutsideCode text).Sublist (promptTags text) ∧
      (∀ found, found ∈ promptTagsOutsideCode text ↔ found ∈ promptTags text ∧
        ∀ block ∈ codeBlocks text, ¬block.Holds found.span.start) ∧
      AgreesOn (promptTagsOutsideCode text) text (extractNotePrompts next text).1
        (hasNotePrompts text)
        (fun values => fillNote (extractNotePrompts next text).1 values text) := by
  have hlength : ∀ found ∈ promptTags text, found.span.start < found.span.stop :=
    fun _ => start_lt_stop_of_mem_promptTags
  refine ⟨agreesOn_fillTags (pairwise_promptTags text) hlength next text,
    countPrompts_eq next text, List.filter_sublist, fun _ => mem_promptTagsOutsideCode_iff, ?_⟩
  exact agreesOn_fillTags (pairwise_promptTagsOutsideCode text)
    (fun found hfound => hlength found (mem_promptTagsOutsideCode_iff.1 hfound).1) next text

end NoteTemplate
