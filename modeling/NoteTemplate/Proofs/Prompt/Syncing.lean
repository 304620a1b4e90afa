import NoteTemplate.Prompt.Merging
import NoteTemplate.Proofs.Prompt.Asking
import NoteTemplate.Proofs.Prompt.Numbering

/-!
# Prompts and their saved settings

A pattern says which prompts there are, what they are called and which of them are optional.
Their types and configurations come from the pattern where it gives a type, and otherwise from
the last saved prompt of the key (`IsSynced`).  What comes out can be saved again: a second
reading of the same pattern changes nothing, whatever identifiers are new by then.
-/

namespace NoteTemplate

variable {saved prompts : List Prompt} {asked result kept : Prompt} {key : Text}

/-! ### What is taken from where -/

/-- The last of the saved prompts with a key. -/
structure IsLastSaved (saved : List Prompt) (key : Text) (kept : Prompt) : Prop where
  key_eq : kept.key = key
  last : ∃ front behind, saved = front ++ kept :: behind ∧ ∀ other ∈ behind, other.key ≠ key

/-- Two prompts with the same type and the same configuration. -/
structure Prompt.SameSettings (prompt other : Prompt) : Prop where
  valueType : prompt.valueType = other.valueType
  dateConfig : prompt.dateConfig = other.dateConfig
  timeConfig : prompt.timeConfig = other.timeConfig
  options : prompt.options = other.options

/-- A tag gives the type of its prompt: it has a word for it, and the word is known. -/
def TagOccurrence.GivesType (found : TagOccurrence) : Prop :=
  ∃ type valueType, (PromptContent.ofText found.value.content).type? = some type ∧
    ValueType.resolve? type.text = some valueType

/-- A prompt that a pattern asks for, and what becomes of it with the saved prompts. -/
structure IsSynced (saved : List Prompt) (asked result : Prompt) : Prop where
  name : result.name = asked.name
  isOptional : result.isOptional = asked.isOptional
  isInlineConfigured : result.isInlineConfigured = asked.isInlineConfigured
  ofPattern : asked.isInlineConfigured = true ∨ (∀ kept ∈ saved, kept.key ≠ asked.key) →
    result.SameSettings asked
  ofSaved : asked.isInlineConfigured = false → ∀ kept, IsLastSaved saved asked.key kept →
    result.SameSettings kept
  savedId : ∀ kept, IsLastSaved saved asked.key kept → kept.id ≠ [] → result.id = kept.id
  newId : (∀ kept, IsLastSaved saved asked.key kept → kept.id = []) → result.id = asked.id

/-- The non-empty identifiers among the saved ones differ from each other. -/
def HasDistinctIds (saved : List Prompt) : Prop :=
  ((saved.map Prompt.id).filter (· ≠ [])).Nodup

/-! ### One prompt -/

theorem find?_eq_some_iff_isLastSaved :
    Prompt.find? saved key = some kept ↔ IsLastSaved saved key kept := by
  rw [Prompt.find?, List.find?_eq_some_iff_append, decide_eq_true_iff]
  constructor
  · rintro ⟨hkey, behind, front, hsaved, hbehind⟩
    refine ⟨hkey, front.reverse, behind.reverse, ?_, fun other hother => ?_⟩
    · rw [← List.reverse_reverse saved, hsaved]
      simp
    · simpa using hbehind other (List.mem_reverse.1 hother)
  · rintro ⟨hkey, front, behind, rfl, hbehind⟩
    exact ⟨hkey, behind.reverse, front.reverse, by simp, by simpa using hbehind⟩

theorem find?_eq_none_iff : Prompt.find? saved key = none ↔ ∀ kept ∈ saved, kept.key ≠ key := by
  simp [Prompt.find?]

theorem isInlineConfigured_prompt_iff (found : TagOccurrence) :
    found.prompt.isInlineConfigured = true ↔ found.GivesType := by
  have hflag : found.prompt.isInlineConfigured =
      (PromptContent.ofText found.value.content).valueType?.isSome := rfl
  rw [hflag, PromptContent.valueType?, Option.isSome_iff_exists, TagOccurrence.GivesType]
  simp only [Option.bind_eq_some_iff]
  exact exists_comm.trans (exists_congr fun _ => by simp)

theorem isInlineConfigured_mergeSaved (prompt saved : Prompt) :
    (prompt.mergeSaved saved).isInlineConfigured = prompt.isInlineConfigured := by
  rw [Prompt.mergeSaved]
  split
  · rfl
  · next hinline => exact (Bool.eq_false_iff.2 hinline).symm

theorem id_mergeSaved (prompt saved : Prompt) :
    (prompt.mergeSaved saved).id = if saved.id = [] then prompt.id else saved.id := by
  have hempty : (if saved.id.isEmpty = true then prompt.id else saved.id) =
      if saved.id = [] then prompt.id else saved.id := by
    simp only [List.isEmpty_iff]
  rw [← hempty, Prompt.mergeSaved]
  split <;> rfl

theorem sameSettings_mergeSaved (prompt saved : Prompt) :
    (prompt.mergeSaved saved).SameSettings
      (if prompt.isInlineConfigured then prompt else saved) := by
  rw [Prompt.mergeSaved]
  split <;> exact ⟨rfl, rfl, rfl, rfl⟩

theorem isSynced_withSaved (saved : List Prompt) (asked : Prompt) :
    IsSynced saved asked (asked.withSaved saved) := by
  rw [Prompt.withSaved]
  cases hfind : Prompt.find? saved asked.key with
  | none =>
    have hnone : ∀ kept, ¬IsLastSaved saved asked.key kept := by
      intro kept hkept
      rw [find?_eq_some_iff_isLastSaved.2 hkept] at hfind
      cases hfind
    exact {
      name := rfl
      isOptional := rfl
      isInlineConfigured := rfl
      ofPattern := fun _ => ⟨rfl, rfl, rfl, rfl⟩
      ofSaved := fun _ kept hkept => absurd hkept (hnone kept)
      savedId := fun kept hkept => absurd hkept (hnone kept)
      newId := fun _ => rfl }
  | some kept =>
    have hkept := find?_eq_some_iff_isLastSaved.1 hfind
    have honly (other : Prompt) (hother : IsLastSaved saved asked.key other) : other = kept := by
      rw [find?_eq_some_iff_isLastSaved.2 hother] at hfind
      exact Option.some.inj hfind
    have hsettings := sameSettings_mergeSaved asked kept
    exact {
      name := Prompt.name_mergeSaved _ _
      isOptional := Prompt.isOptional_mergeSaved _ _
      isInlineConfigured := isInlineConfigured_mergeSaved _ _
      ofPattern := by
        rintro (hinline | hnone)
        · rwa [if_pos hinline] at hsettings
        · rw [find?_eq_none_iff.2 hnone] at hfind
          cases hfind
      ofSaved := by
        intro hinline other hother
        rw [hinline] at hsettings
        rw [honly other hother]
        exact hsettings
      savedId := by
        intro other hother hid
        rw [honly other hother] at hid ⊢
        rw [id_mergeSaved, if_neg hid]
      newId := fun hempty => by rw [id_mergeSaved, if_pos (hempty kept hkept)] }

namespace IsSynced

variable (h : IsSynced saved asked result)
include h

theorem key_eq : result.key = asked.key := congrArg Text.lower h.name

/-- The identifier is that of the last saved prompt with the key, or the new one. -/
theorem id_cases : (∃ kept ∈ saved, kept.key = asked.key ∧ kept.id ≠ [] ∧ result.id = kept.id) ∨
    result.id = asked.id := by
  by_cases hempty : ∀ kept, IsLastSaved saved asked.key kept → kept.id = []
  · exact Or.inr (h.newId hempty)
  · obtain ⟨kept, hempty⟩ := not_forall.1 hempty
    obtain ⟨hkept, hid⟩ := Classical.not_imp.1 hempty
    obtain ⟨front, behind, hsaved, -⟩ := hkept.last
    have hmem : kept ∈ saved := by
      rw [hsaved]
      exact List.mem_append_right _ List.mem_cons_self
    exact Or.inl ⟨kept, hmem, hkept.key_eq, hid, h.savedId kept hkept hid⟩

/-- A prompt that was synced is kept when its question is met again under any identifier. -/
theorem mergeSaved_self (hid : result.id ≠ []) (id : Text) :
    ({ asked with id := id } : Prompt).mergeSaved result = result := by
  have hempty : result.id.isEmpty = false := by simpa using hid
  have hname := h.name
  have hoptional := h.isOptional
  have hflag := h.isInlineConfigured
  rw [Prompt.mergeSaved, hempty]
  cases hasked : asked.isInlineConfigured with
  | true =>
    obtain ⟨htype, hdate, htime, hoptions⟩ := h.ofPattern (Or.inl hasked)
    cases result
    simp_all
  | false =>
    cases result
    simp_all

end IsSynced

/-! ### All prompts of a pattern -/

theorem promptId_ne_nil (number : Nat) : promptId number ≠ [] :=
  List.append_ne_nil_of_left_ne_nil (by decide) _

/-- The same question with a new identifier. -/
structure SameQuestion (asked other : Prompt) : Prop where
  id_ne_nil : asked.id ≠ []
  exists_eq : ∃ id, other = { asked with id := id }

theorem forall₂_numberPrompts (next again : Nat) (prompts : List Prompt) :
    List.Forall₂ SameQuestion (numberPrompts next prompts) (numberPrompts again prompts) := by
  induction prompts generalizing next again with
  | nil => exact .nil
  | cons prompt prompts ih => exact .cons ⟨promptId_ne_nil next, _, rfl⟩ (ih _ _)

theorem forall₂_withSaved (saved prompts : List Prompt) :
    List.Forall₂ (IsSynced saved) prompts (prompts.map (Prompt.withSaved saved)) := by
  rw [List.forall₂_map_right_iff]
  exact List.forall₂_same.2 fun asked _ => isSynced_withSaved saved asked

theorem map_key_withSaved (saved prompts : List Prompt) :
    (prompts.map (Prompt.withSaved saved)).map Prompt.key = prompts.map Prompt.key := by
  rw [List.map_map]
  exact List.map_congr_left fun asked _ => (isSynced_withSaved saved asked).key_eq

/-- Identifiers stay apart: two questions have different keys, so they find different saved
prompts. -/
theorem nodup_id_withSaved (hrow : IsRow prompts) (hsaved : HasDistinctIds saved)
    (hnew : ∀ kept ∈ saved, ∀ asked ∈ prompts, kept.id ≠ asked.id) :
    ((prompts.map (Prompt.withSaved saved)).map Prompt.id).Nodup := by
  have hfilter : ((saved.filter fun kept => kept.id ≠ []).map Prompt.id).Nodup := by
    rwa [HasDistinctIds, List.filter_map] at hsaved
  rw [List.map_map]
  refine (List.Nodup.of_map Prompt.id hrow.ids).map_on ?_
  intro left hleft right hright heq
  have hids : (left.withSaved saved).id = (right.withSaved saved).id := heq
  rcases (isSynced_withSaved saved left).id_cases with ⟨kept, hkept, hkey, hid, hof⟩ | hof
  · rcases (isSynced_withSaved saved right).id_cases with ⟨other, hother, hkey', hid', hof'⟩ | hof'
    · have hsame : kept = other :=
        List.inj_on_of_nodup_map hfilter (List.mem_filter.2 ⟨hkept, by simpa using hid⟩)
          (List.mem_filter.2 ⟨hother, by simpa using hid'⟩) (by rw [← hof, hids, hof'])
      apply List.inj_on_of_nodup_map hrow.keys hleft hright
      rw [← hkey, ← hkey', hsame]
    · exact absurd (by rw [← hof, hids, hof']) (hnew kept hkept right hright)
  · rcases (isSynced_withSaved saved right).id_cases with ⟨other, hother, -, -, hof'⟩ | hof'
    · exact absurd (by rw [← hof', ← hids, hof]) (hnew other hother left hleft)
    · exact List.inj_on_of_nodup_map hrow.ids hleft hright (by rw [← hof, hids, hof'])

/-- Questions that are met again among the synced prompts find their own prompt there. -/
theorem map_withSaved_again {others : List Prompt} (hkeys : (prompts.map Prompt.key).Nodup)
    (hothers : List.Forall₂ SameQuestion prompts others) :
    others.map (Prompt.withSaved (prompts.map (Prompt.withSaved saved))) =
      prompts.map (Prompt.withSaved saved) := by
  have hnodup : ((prompts.map (Prompt.withSaved saved)).map Prompt.key).Nodup := by
    rwa [map_key_withSaved]
  have hall : ∀ front row, front ⊆ prompts → List.Forall₂ SameQuestion front row →
      row.map (Prompt.withSaved (prompts.map (Prompt.withSaved saved))) =
        front.map (Prompt.withSaved saved) := by
    intro front row hfront hrow
    induction hrow with
    | nil => rfl
    | @cons asked other front row hother _ ih =>
      obtain ⟨hasked, hfront⟩ := List.cons_subset.1 hfront
      obtain ⟨hnew, id, rfl⟩ := hother
      have hsynced := isSynced_withSaved saved asked
      have hfound : Prompt.find? (prompts.map (Prompt.withSaved saved)) asked.key =
          some (asked.withSaved saved) :=
        (Prompt.find?_eq_some_iff hnodup).2 ⟨List.mem_map_of_mem hasked, hsynced.key_eq⟩
      have hid : (asked.withSaved saved).id ≠ [] := by
        rcases hsynced.id_cases with ⟨kept, -, -, hid, heq⟩ | heq
        · rwa [heq]
        · rwa [heq]
      have hagain : ({ asked with id := id } : Prompt).withSaved
          (prompts.map (Prompt.withSaved saved)) = asked.withSaved saved := by
        have hsame : ({ asked with id := id } : Prompt).key = asked.key := rfl
        rw [Prompt.withSaved, hsame, hfound]
        exact hsynced.mergeSaved_self hid id
      rw [List.map_cons, List.map_cons, ih hfront, hagain]
  exact hall prompts others (List.Subset.refl _) hothers

/-- Syncing a pattern with saved prompts gives one prompt for each key that the pattern asks for,
in the order of the pattern.  A prompt of the pattern is configured in the pattern just when the
first tag with its name gives a type.  Identifiers that differ among the saved prompts differ in the
result, if the new ones are not in use, and syncing the result again changes none of its fields. -/
theorem syncPrompts_syncs (next again : Nat) (pattern : Text) (saved : List Prompt) :
    let asked := (extractPrompts next pattern).1
    let result := (syncPrompts next pattern saved).1
    AsksFor (promptTags pattern) asked ∧
      (∀ prompt ∈ asked, ∃ found,
        ((promptTags pattern).filter TagOccurrence.isNamed).find?
          (fun found => found.key = prompt.key) = some found ∧
        (prompt.isInlineConfigured = true ↔ found.GivesType)) ∧
      result.map Prompt.key = asked.map Prompt.key ∧
      List.Forall₂ (IsSynced saved) asked result ∧
      (HasDistinctIds saved → (∀ kept ∈ saved, ∀ prompt ∈ asked, kept.id ≠ prompt.id) →
        (result.map Prompt.id).Nodup) ∧
      (syncPrompts again pattern result).1 = result := by
  intro asked result
  have hkeys := nodup_key_promptsOfTags (promptTags pattern)
  have hrow : IsRow asked := isRow_numberPrompts hkeys next
  have hasks : AsksFor (promptTags pattern) asked := asksFor_numberPrompts next _
  refine ⟨hasks, fun prompt hprompt => ?_, map_key_withSaved saved asked,
    forall₂_withSaved saved asked, nodup_id_withSaved hrow, ?_⟩
  · obtain ⟨found, hfound, heq⟩ := hasks.first prompt hprompt
    refine ⟨found, hfound, ?_⟩
    rw [heq]
    exact isInlineConfigured_prompt_iff found
  · exact map_withSaved_again hrow.keys (forall₂_numberPrompts next again _)

/-! ### Prompts for a dinner -/

/-- Only the day has a type in the pattern. -/
def dinnerPattern : Text := "\x7b% Guest %\x7d \x7b%? MOOD ?%\x7d \x7b% Day:date:US %\x7d".toList

/-- A question without a configuration. -/
def savedPrompt (name : String) (valueType : ValueType) (id : String) : Prompt where
  name := name.toList
  valueType := valueType
  isOptional := false
  dateConfig := none
  timeConfig := none
  options := none
  id := id.toList
  isInlineConfigured := false

/-- The mood was saved twice, the second time without an identifier. -/
def dinnerSaved : List Prompt :=
  [savedPrompt "mood" .list "m", savedPrompt "day" .time "d", savedPrompt "Mood" .numeric ""]

/-- The last mood that was saved gives the type, and the day keeps its identifier. -/
def dinnerPrompts : List Prompt :=
  [{ savedPrompt "Guest" .text "" with id := promptId 5 },
   { savedPrompt "MOOD" .numeric "" with isOptional := true, id := promptId 6 },
   { savedPrompt "Day" .date "d" with
      dateConfig := some (.plain "MM-DD-YYYY".toList), isInlineConfigured := true }]

theorem syncPrompts_syncs_dinner :
    HasDistinctIds dinnerSaved ∧
      (∀ kept ∈ dinnerSaved, ∀ prompt ∈ (extractPrompts 5 dinnerPattern).1,
        kept.id ≠ prompt.id) ∧
      (syncPrompts 5 dinnerPattern dinnerSaved).1 = dinnerPrompts ∧
      (dinnerPrompts.map Prompt.id).Nodup ∧
      (syncPrompts 9 dinnerPattern dinnerPrompts).1 = dinnerPrompts := by
  have hids : HasDistinctIds dinnerSaved := by
    rw [HasDistinctIds]
    decide
  have hnew : ∀ kept ∈ dinnerSaved, ∀ prompt ∈ (extractPrompts 5 dinnerPattern).1,
      kept.id ≠ prompt.id := by decide +kernel
  have hresult : (syncPrompts 5 dinnerPattern dinnerSaved).1 = dinnerPrompts := by
    decide +kernel
  obtain ⟨-, -, -, -, hnodup, hagain⟩ := syncPrompts_syncs 5 9 dinnerPattern dinnerSaved
  have hdistinct := hnodup hids hnew
  rw [hresult] at hagain hdistinct
  exact ⟨hids, hnew, hresult, hdistinct, hagain⟩

end NoteTemplate
