import NoteTemplate.Proofs.Prompt.Asking
import NoteTemplate.Proofs.Prompt.Extracted
import NoteTemplate.Value.Validation

/-!
# Options that can be chosen

The options of a prompt and the entries of a value are read by one rule: the parts between
commas, without the blanks around them, and without those that are blank.  Whatever options a
text lists, each of them is accepted, and so is every row of them that is joined with commas;
nothing else is, but for the blank values of an optional prompt
(`exists_choices_of_extracted`).
-/

namespace NoteTemplate

variable {prompt : Prompt} {value blanks : Text} {options chosen : List Text}

/-! ### Entries of a value -/

theorem splitMultilist_of_notMem (h : ',' ∉ value) :
    splitMultilist value = [Text.trim value].filter fun entry => !entry.isEmpty := by
  rw [splitMultilist, Text.splitOn_of_notMem h]
  rfl

theorem splitMultilist_append_cons (h : ',' ∉ value) (rest : Text) :
    splitMultilist (value ++ ',' :: rest) =
      ([Text.trim value].filter fun entry => !entry.isEmpty) ++ splitMultilist rest := by
  rw [splitMultilist, Text.splitOn_append_cons h, List.map_cons, ← List.singleton_append,
    List.filter_append]
  rfl

theorem comma_notMem_of_isBlankText (h : Text.isBlankText blanks = true) : ',' ∉ blanks := by
  intro hmem
  have hblank := List.all_eq_true.1 h ',' hmem
  revert hblank
  decide

/-- An option is the one entry of itself, whatever blanks stand in front. -/
theorem AreListable.filter_trim (h : AreListable options) {option : Text}
    (hoption : option ∈ options) (hblanks : Text.isBlankText blanks = true) :
    ',' ∉ blanks ++ option ∧
      ([Text.trim (blanks ++ option)].filter fun entry => !entry.isEmpty) = [option] := by
  obtain ⟨hne, htrimmed, hcomma, -⟩ := h option hoption
  have htrim : Text.trim (blanks ++ option) = option := by
    rw [← List.append_nil (blanks ++ option)]
    exact Text.trim_padded htrimmed hblanks rfl
  refine ⟨?_, ?_⟩
  · rw [List.mem_append, not_or]
    exact ⟨comma_notMem_of_isBlankText hblanks, hcomma⟩
  · rw [htrim]
    simp [hne]

/-- A row of options is read back from its join, with any blanks behind the commas. -/
theorem AreListable.splitMultilist_join (h : AreListable chosen)
    (hblanks : Text.isBlankText blanks = true) {front : Text}
    (hfront : Text.isBlankText front = true) :
    splitMultilist (front ++ Text.join (',' :: blanks) chosen) = chosen := by
  induction chosen generalizing front with
  | nil =>
    have htrim : Text.trim front = [] := Text.trim_eq_nil_iff.2 hfront
    rw [Text.join_nil, List.append_nil,
      splitMultilist_of_notMem (comma_notMem_of_isBlankText hfront), htrim]
    rfl
  | cons option more ih =>
    obtain ⟨hcomma, hentry⟩ := h.filter_trim List.mem_cons_self hfront
    cases more with
    | nil => rw [Text.join_singleton, splitMultilist_of_notMem hcomma, hentry]
    | cons next more =>
      have hmore := ih (fun other hother => h other (List.mem_cons_of_mem _ hother)) hblanks
      have hcut : front ++ Text.join (',' :: blanks) (option :: next :: more) =
          front ++ option ++ ',' :: (blanks ++ Text.join (',' :: blanks) (next :: more)) := by
        simp [Text.join]
      rw [hcut, splitMultilist_append_cons hcomma, hentry, hmore]
      rfl

/-- A value without entries has nothing but commas and blanks. -/
theorem splitMultilist_eq_nil_iff :
    splitMultilist value = [] ↔ ∀ c ∈ value, c = ',' ∨ isBlank c = true := by
  rw [← Text.forall_splitOn_iff, splitMultilist, List.filter_eq_nil_iff, List.forall_mem_map]
  apply forall₂_congr
  intro part _
  rw [Bool.not_eq_true', Bool.not_eq_false, List.isEmpty_iff, Text.trim_eq_nil_iff,
    Text.isBlankText, List.all_eq_true]

theorem not_isBlankText_of_splitMultilist (h : splitMultilist value ≠ []) :
    ¬Text.isBlankText value = true :=
  fun hblank => h (splitMultilist_eq_nil_iff.2 fun c hc =>
    Or.inr (List.all_eq_true.1 hblank c hc))

theorem AreListable.not_isBlankText (h : AreListable options) {option : Text}
    (hoption : option ∈ options) : ¬Text.isBlankText option = true := by
  obtain ⟨hne, htrimmed, -, -⟩ := h option hoption
  rw [← Text.trim_eq_nil_iff, htrimmed]
  exact hne

/-! ### Accepted values -/

theorem ValueType.hasOptions_iff {valueType : ValueType} :
    valueType.hasOptions = true ↔ valueType = .list ∨ valueType = .multilist := by
  cases valueType <;> decide

namespace Prompt

/-- The value suits the prompt. -/
def Accepts (prompt : Prompt) (value : Text) : Prop := valueProblem? prompt value = .ok none

theorem accepts_iff_of_hasOptions (htype : prompt.valueType.hasOptions = true)
    (hvalue : ¬Text.isBlankText value = true) :
    prompt.Accepts value ↔ choiceProblem? prompt value = .ok none := by
  rw [Accepts, valueProblem?, if_neg hvalue]
  cases hvalueType : prompt.valueType with
  | list | multilist => rfl
  | text | numeric | date | time | datetime =>
    rw [hvalueType] at htype
    cases htype

variable (hoptions : prompt.optionList = options.map StoredText.text)

include hoptions

theorem mem_optionList_iff : .text value ∈ prompt.optionList ↔ value ∈ options := by
  rw [hoptions, List.mem_map]
  constructor
  · rintro ⟨option, hoption, heq⟩
    rwa [← StoredText.text.inj heq]
  · exact fun hvalue => ⟨value, hvalue, rfl⟩

theorem isEmpty_optionList (hne : options ≠ []) : ¬prompt.optionList.isEmpty = true := by
  rw [hoptions]
  simpa using hne

/-- A value is accepted for a list when it is one of the options. -/
theorem accepts_list_iff (htype : prompt.valueType = .list) (hne : options ≠ [])
    (hvalue : ¬Text.isBlankText value = true) : prompt.Accepts value ↔ value ∈ options := by
  rw [accepts_iff_of_hasOptions (by rw [htype]; rfl) hvalue, choiceProblem?]
  dsimp only
  rw [if_neg (isEmpty_optionList hoptions hne), if_pos htype, ← mem_optionList_iff hoptions,
    ← List.contains_iff_mem]
  split
  · next hmem => exact iff_of_true rfl hmem
  · next hnot =>
    refine iff_of_false ?_ hnot
    cases optionTexts prompt.optionList <;> simp [bind, Except.bind, pure, Except.pure]

/-- A value is accepted for a list of several options when its entries are options.  A value
without entries is accepted when the prompt may be left blank. -/
theorem accepts_multilist_iff (htype : prompt.valueType = .multilist) (hne : options ≠ [])
    (hvalue : ¬Text.isBlankText value = true) :
    prompt.Accepts value ↔
      (splitMultilist value ≠ [] ∧ ∀ entry ∈ splitMultilist value, entry ∈ options) ∨
        prompt.isOptional = true ∧ ∀ c ∈ value, c = ',' ∨ isBlank c = true := by
  rw [accepts_iff_of_hasOptions (by rw [htype]; rfl) hvalue, choiceProblem?,
    ← splitMultilist_eq_nil_iff]
  dsimp only
  rw [if_neg (isEmpty_optionList hoptions hne), if_neg (by rw [htype]; decide)]
  split
  · next hempty =>
    rw [List.isEmpty_iff] at hempty
    rw [blankProblem?, hempty]
    cases prompt.isOptional <;> simp
  · next hentries =>
    rw [List.isEmpty_iff] at hentries
    have hfind : (splitMultilist value).find?
        (fun entry => !prompt.optionList.contains (.text entry)) = none ↔
          ∀ entry ∈ splitMultilist value, entry ∈ options := by
      rw [List.find?_eq_none]
      apply forall₂_congr
      intro entry _
      rw [Bool.not_eq_true', Bool.not_eq_false, List.contains_iff_mem, mem_optionList_iff hoptions]
    rw [Except.ok.injEq, Option.map_eq_none_iff, hfind]
    simp [hentries]

end Prompt

/-! ### The options of a text -/

/-- The options that a text lists are trimmed texts without commas. -/
theorem exists_options {text : Text} {tags : List TagOccurrence} {next : Nat}
    (htags : ∀ found ∈ tags, found ∈ promptTags text)
    (hprompt : prompt ∈ numberPrompts next (promptsOfTags tags)) (hne : prompt.optionList ≠ []) :
    prompt.valueType.hasOptions = true ∧ ∃ options, options ≠ [] ∧ AreListable options ∧
      prompt.optionList = options.map StoredText.text := by
  obtain ⟨found, hfirst, heq⟩ := (asksFor_numberPrompts next tags).first prompt hprompt
  obtain ⟨hfound, hnamed⟩ := List.mem_filter.1 (List.mem_of_find?_eq_some hfirst)
  obtain ⟨name, type?, detail, -, hdetail, hparts⟩ := Prompt.exists_ofContent_eq
    (TagOccurrence.isNamed_iff.1 hnamed) (Prompt.percent_notMem_content (htags found hfound))
    found.value.isOptional
  have hread : found.prompt = .ofParts name type? detail found.value.isOptional := hparts
  rw [hread] at heq
  rw [heq, Prompt.optionList, Prompt.ofParts] at hne ⊢
  dsimp only at hne ⊢
  split at hne
  · next htype =>
    rw [if_pos htype]
    have hoptions : optionsOfDetail detail ≠ [] := by simpa using hne
    exact ⟨htype, _, hoptions, areListable_optionsOfDetail hdetail.no_percent, rfl⟩
  · exact absurd rfl hne

theorem exists_options_of_extracted {text : Text} {next : Nat}
    (hprompt : prompt ∈ (extractPrompts next text).1 ∨ prompt ∈ (extractNotePrompts next text).1)
    (hne : prompt.optionList ≠ []) :
    prompt.valueType.hasOptions = true ∧ ∃ options, options ≠ [] ∧ AreListable options ∧
      prompt.optionList = options.map StoredText.text := by
  rcases hprompt with htitle | hnote
  · exact exists_options (fun _ hfound => hfound) htitle hne
  · exact exists_options (fun _ hfound => (mem_promptTagsOutsideCode_iff.1 hfound).1) hnote hne

/-- Every option of a prompt is accepted, alone for a list, and for a list of several options in
any row that is joined with commas, which is read back.  Of the other values that are not blank
none is accepted, but for those without entries when the prompt is optional. -/
theorem exists_choices_of_extracted {text : Text} {next : Nat}
    (hprompt : prompt ∈ (extractPrompts next text).1 ∨ prompt ∈ (extractNotePrompts next text).1)
    (hne : prompt.optionList ≠ []) :
    ∃ options : List Text, prompt.optionList = options.map StoredText.text ∧
      (prompt.valueType = .list ∨ prompt.valueType = .multilist) ∧
      (prompt.valueType = .list →
        (∀ option ∈ options, prompt.Accepts option) ∧
        ∀ value, ¬Text.isBlankText value = true → (prompt.Accepts value ↔ value ∈ options)) ∧
      (prompt.valueType = .multilist →
        (∀ chosen, chosen ≠ [] → (∀ option ∈ chosen, option ∈ options) →
          ∀ separator, separator = ",".toList ∨ separator = ", ".toList →
            prompt.Accepts (Text.join separator chosen) ∧
            splitMultilist (Text.join separator chosen) = chosen) ∧
        ∀ value, ¬Text.isBlankText value = true →
          (prompt.Accepts value ↔
            (splitMultilist value ≠ [] ∧ ∀ entry ∈ splitMultilist value, entry ∈ options) ∨
              prompt.isOptional = true ∧ ∀ c ∈ value, c = ',' ∨ isBlank c = true)) := by
  obtain ⟨hhas, options, hfilled, hlistable, hoptions⟩ := exists_options_of_extracted hprompt hne
  refine ⟨options, hoptions, ValueType.hasOptions_iff.1 hhas, fun htype => ?_, fun htype => ?_⟩
  · have haccepts (value : Text) (hvalue : ¬Text.isBlankText value = true) :=
      Prompt.accepts_list_iff hoptions htype hfilled hvalue
    exact ⟨fun option hoption => (haccepts option (hlistable.not_isBlankText hoption)).2 hoption,
      haccepts⟩
  · have haccepts (value : Text) (hvalue : ¬Text.isBlankText value = true) :=
      Prompt.accepts_multilist_iff hoptions htype hfilled hvalue
    refine ⟨fun chosen hchosen hsubset separator hseparator => ?_, haccepts⟩
    have hsplit : splitMultilist (Text.join separator chosen) = chosen := by
      have hrow : AreListable chosen := fun option hoption =>
        hlistable option (hsubset option hoption)
      have hnothing : Text.isBlankText [] = true := rfl
      have hspace : Text.isBlankText [' '] = true := by decide
      rcases hseparator with rfl | rfl
      · exact hrow.splitMultilist_join hnothing hnothing
      · exact hrow.splitMultilist_join hspace hnothing
    have hvalue := not_isBlankText_of_splitMultilist (hsplit ▸ hchosen)
    rw [haccepts _ hvalue, hsplit]
    exact ⟨Or.inl ⟨hchosen, hsubset⟩, rfl⟩

/-- A question for several dishes, with a blank part among them, that may be left blank. -/
def mealText : Text := "\x7b%? Meal : multilist : rice, , fish soup ?%\x7d".toList

/-- The prompt of `mealText`. -/
def mealPrompt : Prompt where
  name := "Meal".toList
  valueType := .multilist
  isOptional := true
  dateConfig := none
  timeConfig := none
  options := some [.text "rice".toList, .text "fish soup".toList]
  id := promptId 1
  isInlineConfigured := true

theorem exists_choices_of_meal :
    mealPrompt ∈ (extractPrompts 1 mealText).1 ∧ mealPrompt.optionList ≠ [] ∧
      mealPrompt.Accepts "fish soup, rice, rice".toList ∧
      splitMultilist "fish soup, rice, rice".toList =
        ["fish soup".toList, "rice".toList, "rice".toList] ∧
      mealPrompt.Accepts " ,".toList ∧ ¬mealPrompt.Accepts "rice, Fish soup".toList := by
  have hprompt : mealPrompt ∈ (extractPrompts 1 mealText).1 := by decide +kernel
  have hne : mealPrompt.optionList ≠ [] := by decide
  obtain ⟨options, hoptions, -, -, hseveral⟩ :=
    exists_choices_of_extracted (Or.inl hprompt) hne
  obtain ⟨hrows, haccepts⟩ := hseveral rfl
  obtain ⟨hrow, hsplit⟩ := hrows ["fish soup".toList, "rice".toList, "rice".toList]
    (List.cons_ne_nil _ _) (by
      intro option hoption
      apply (Prompt.mem_optionList_iff hoptions).1
      revert option
      decide) ", ".toList (Or.inr rfl)
  refine ⟨hprompt, hne, hrow, hsplit, ?_, ?_⟩
  · have hspace : isBlank ' ' = true := by decide
    have hseparators : ∀ c ∈ [' ', ','], c = ',' ∨ isBlank c = true := by simp [hspace]
    rw [haccepts _ (by decide)]
    exact Or.inr ⟨rfl, hseparators⟩
  · rw [haccepts _ (by decide)]
    rintro (⟨-, hentries⟩ | ⟨-, hblank⟩)
    · have hmem := hentries "Fish soup".toList (by decide)
      rw [← Prompt.mem_optionList_iff hoptions] at hmem
      revert hmem
      decide
    · have hfirst := hblank 'r' List.mem_cons_self
      revert hfirst
      decide

end NoteTemplate
