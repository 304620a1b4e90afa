import NoteTemplate.Proofs.Counter.Recognisers
import NoteTemplate.Proofs.Creation.Advance

/-!
# The counter that a title shows

A plan has a number when its title has a counter tag, and the title shows a number for every
variable that names the counter.  So for a title with no format behind the name of the counter
the number is shown once at most, and the placeholder never.  A counter with a format is shown
like any other, but it is not counted, and alone it gets no number
(`shownCounters_of_planNote`).
-/

namespace NoteTemplate

variable {α : Type} {pattern source : Text} {withPrompts : Bool} {tag : VariableTag}
  {prompts : List Prompt}

/-- The tag is a variable that names the counter. -/
def TitleTag.isCounter : TitleTag → Bool
  | .variable tag => tag.isCounter
  | .prompt _ => false

theorem TitleTag.exists_of_isCounter {tag : TitleTag} (h : tag.isCounter = true) :
    ∃ found, tag = .variable found ∧ found.isCounter = true := by
  rcases tag with found | found
  · exact ⟨found, rfl, h⟩
  · simp [isCounter] at h

/-! ### The tags that count -/

theorem disjointFrom_sublist (pos : Nat) (tags : List (Occurrence α)) :
    (disjointFrom pos tags).Sublist tags := by
  induction tags generalizing pos with
  | nil => exact List.Sublist.slnil
  | cons found tags ih =>
    rw [disjointFrom]
    split
    · exact (ih pos).cons found
    · exact (ih found.span.stop).cons_cons found

theorem countP_titleTags (pattern : Text) (withPrompts : Bool) :
    (titleTags pattern withPrompts).countP (fun tag => tag.value.isCounter) =
      countVariables VariableTag.isCounter pattern := by
  have hprompts : (if withPrompts then (promptTags pattern).map (Occurrence.map TitleTag.prompt)
      else []).countP (fun tag => tag.value.isCounter) = 0 := by
    rw [List.countP_eq_zero]
    intro tag htag
    split at htag
    · obtain ⟨found, -, rfl⟩ := List.mem_map.1 htag
      simp [Occurrence.map, TitleTag.isCounter]
    · simp at htag
  rw [titleTags, (List.merge_perm_append _).countP_eq, List.countP_append, hprompts,
    List.countP_map, Nat.add_zero]
  rfl

/-- In a pattern without problems only counters with a format are counted beside the first. -/
theorem countP_chosenTitleTags_le (h : titleProblems pattern = []) (withPrompts : Bool) :
    (chosenTitleTags pattern withPrompts).countP (fun tag => tag.value.isCounter) ≤
      1 + countVariables VariableTag.isFormattedCounter pattern := by
  have hone : (counterTags pattern).length ≤ 1 := by
    have hcounters := (List.append_eq_nil_iff.1 (List.append_eq_nil_iff.1 h).1).2
    by_contra hseveral
    rw [if_pos (Nat.not_le.1 hseveral)] at hcounters
    cases hcounters
  have hlength := length_counterTags pattern
  calc (chosenTitleTags pattern withPrompts).countP (fun tag => tag.value.isCounter)
      ≤ (titleTags pattern withPrompts).countP fun tag => tag.value.isCounter :=
        (disjointFrom_sublist 0 _).countP_le
    _ = countVariables VariableTag.isCounter pattern := countP_titleTags pattern withPrompts
    _ = countVariables VariableTag.isPlainCounter pattern +
          countVariables VariableTag.isFormattedCounter pattern := countVariables_isCounter pattern
    _ ≤ 1 + countVariables VariableTag.isFormattedCounter pattern := by omega

/-- Where no counter tag stands, a counter has a format. -/
theorem countVariables_pos_of_mem {found : Occurrence TitleTag}
    (hfound : found ∈ chosenTitleTags pattern withPrompts) (hcounter : found.value.isCounter = true)
    (hnone : counterTags pattern = []) :
    0 < countVariables VariableTag.isFormattedCounter pattern := by
  have hsome : 0 < countVariables VariableTag.isCounter pattern := by
    rw [← countP_titleTags pattern withPrompts, List.countP_pos_iff]
    exact ⟨found, mem_titleTags_of_mem_chosen hfound, hcounter⟩
  have hlength := length_counterTags pattern
  rw [hnone, List.length_nil] at hlength
  rw [countVariables_isCounter] at hsome
  omega

/-! ### What a counter becomes -/

/-- In a file name a counter becomes its number, with or without a format, and a placeholder
when there is no number. -/
theorem piece_of_isCounter [LocalZone] (h : tag.isCounter = true) (formats : DateTimeSettings)
    (now : Instant) (number : Option Int) :
    (TitleTag.variable tag).piece ⟨formats, now, number, .filename⟩ prompts source =
      match number with
      | some number => TitlePiece.literal <$> counterText number
      | none => .ok (.literal ['#']) := by
  have hname : tag.name = Variable.counter.name := of_decide_eq_true h
  have hlower : Text.lower Variable.counter.name = Variable.counter.name :=
    lower_eq_counter_iff.2 (by unfold IsCounterName; decide)
  rw [TitleTag.piece, RenderContext.renderTag, RenderContext.renderNamed, hname, hlower,
    Variable.ofName?_name]
  cases number with
  | none => rfl
  | some number =>
    simp only [RenderContext.render]
    cases counterText number <;> rfl

namespace Vault

variable {vault : Vault} {settings : DateTimeSettings} {template : Template} {given : Option Text}
  {current : Text} {before after : Session} {plan : CreationPlan}

/-- The title of a plan counts its counters, but for those with a format: as many are found in
both ways when as many counters have a format as formats take in a counter tag, no more than one
is shown beside those with a format, and the placeholder is only shown for such a one, when the
title has no counter tag. -/
theorem shownCounters_of_planNote [Styling] [LocalZone]
    (hplan : (vault.planNote settings template given current).Gives before plan after)
    (haccepted : titleProblems template.titlePattern = []) :
    ((counterTags plan.template.titlePattern).length =
        countVariables VariableTag.isCounter plan.template.titlePattern ↔
      countVariables VariableTag.isFormattedCounter plan.template.titlePattern =
        countVariables VariableTag.takesInCounter plan.template.titlePattern) ∧
    ∀ withPrompts,
      (chosenTitleTags plan.template.titlePattern withPrompts).countP
          (fun tag => tag.value.isCounter) ≤
        1 + countVariables VariableTag.isFormattedCounter plan.template.titlePattern ∧
      ∀ found ∈ chosenTitleTags plan.template.titlePattern withPrompts,
        found.value.isCounter = true → ∀ formats now prompts source,
          (∃ number, plan.counter = some number ∧
            found.value.piece ⟨formats, now, plan.counter, .filename⟩ prompts source =
              TitlePiece.literal <$> counterText number) ∨
          (counterTags plan.template.titlePattern = [] ∧
            0 < countVariables VariableTag.isFormattedCounter plan.template.titlePattern ∧
            found.value.piece ⟨formats, now, plan.counter, .filename⟩ prompts source =
              .ok (.literal ['#'])) := by
  rw [template_of_planNote hplan]
  refine ⟨length_counterTags_eq_iff _, fun withPrompts => ⟨?_, ?_⟩⟩
  · exact countP_chosenTitleTags_le haccepted withPrompts
  · intro found hfound hcounter formats now prompts source
    obtain ⟨tag, hvalue, hname⟩ := TitleTag.exists_of_isCounter hcounter
    obtain ⟨-, -, middle, -, hsome, hnone⟩ := of_gives_planNote hplan
    rw [hvalue, piece_of_isCounter hname]
    cases htags : hasCounter template.titlePattern with
    | true =>
      obtain ⟨number, hnumber, -⟩ := hsome htags
      rw [hnumber]
      exact Or.inl ⟨number, rfl, rfl⟩
    | false =>
      have hempty : counterTags template.titlePattern = [] := by
        simpa [hasCounter] using htags
      rw [hnone htags]
      exact Or.inr ⟨hempty, countVariables_pos_of_mem hfound hcounter hempty, rfl⟩

end Vault

section

attribute [local instance] LocalZone.utc Markup.styling

/-- Without a format the counter of the fifth day is found in both ways and shown once. -/
theorem shownCounters_of_fifthDay :
    (diary.planNote .default (dayTemplate dayPattern) none vaultRoot).Gives
        (diarySession ["Day 4.md".toList]) (dayPlan dayPattern 5)
        (diarySession ["Day 4.md".toList]) ∧
      titleProblems dayPattern = [] ∧
      (counterTags dayPattern).length = countVariables VariableTag.isCounter dayPattern ∧
      ∀ withPrompts,
        (chosenTitleTags dayPattern withPrompts).countP (fun tag => tag.value.isCounter) ≤ 1 ∧
        ∀ found ∈ chosenTitleTags dayPattern withPrompts, found.value.isCounter = true →
          ∀ formats now prompts source,
            found.value.piece ⟨formats, now, some 5, .filename⟩ prompts source =
              TitlePiece.literal <$> counterText 5 := by
  have hplan : (diary.planNote .default (dayTemplate dayPattern) none vaultRoot).Gives
      (diarySession ["Day 4.md".toList]) (dayPlan dayPattern 5)
      (diarySession ["Day 4.md".toList]) := by
    unfold Action.Gives
    decide +kernel
  have haccepted : titleProblems dayPattern = [] := by decide +kernel
  have hformatted : countVariables VariableTag.isFormattedCounter dayPattern = 0 := by
    decide +kernel
  have htaken : countVariables VariableTag.takesInCounter dayPattern = 0 := by decide +kernel
  have htitle : (dayPlan dayPattern 5).template.titlePattern = dayPattern := rfl
  obtain ⟨hagree, hshown⟩ := Vault.shownCounters_of_planNote hplan haccepted
  rw [htitle, hformatted, htaken] at hagree
  refine ⟨hplan, haccepted, hagree.2 rfl, fun withPrompts => ?_⟩
  obtain ⟨hone, hpieces⟩ := hshown withPrompts
  rw [htitle, hformatted] at hone hpieces
  refine ⟨hone, ?_⟩
  intro found hfound hcounter formats now prompts source
  rcases hpieces found hfound hcounter formats now prompts source with
    ⟨number, hnumber, hpiece⟩ | ⟨-, hpositive, -⟩
  · obtain rfl : (5 : Int) = number := Option.some.inj hnumber
    exact hpiece
  · exact absurd hpositive (Nat.lt_irrefl 0)

/-- A title with nothing but a counter that has a format. -/
def formattedPattern : Text := "\x7b\x7bcounter:x\x7d\x7d".toList

/-- It is accepted, its counter is a variable but no counter tag, and the title of a new note is
the placeholder. -/
theorem placeholder_of_formattedPattern :
    titleProblems formattedPattern = [] ∧
      (counterTags formattedPattern).length ≠
        countVariables VariableTag.isCounter formattedPattern ∧
      ∃ plan,
        (diary.planNote .default (dayTemplate formattedPattern) none vaultRoot).Gives
          (diarySession []) plan (diarySession []) ∧
        plan.title .final .default dayMoment [] = .ok ['#'] := by
  have hplan : (diary.planNote .default (dayTemplate formattedPattern) none vaultRoot).Gives
      (diarySession []) { dayPlan formattedPattern 0 with counter := none }
      (diarySession []) := by
    unfold Action.Gives
    decide +kernel
  refine ⟨by decide +kernel, by decide +kernel, _, hplan, ?_⟩
  have hrender : renderTitle .final ⟨.default, dayMoment.now, none, .filename⟩ [] []
      formattedPattern = .ok ['#'] := by
    rw [renderTitle, titlePieces, List.isEmpty_nil, Bool.not_true, chosenTitleTags_false]
    decide +kernel
  exact hrender

end

end NoteTemplate
