import NoteTemplate.Proofs.CommandLine.Ending
import NoteTemplate.Proofs.Prompt.Numbering
import NoteTemplate.Proofs.Prompt.Showing

/-!
# Answering without questions

When no questions may be asked, the prompts of a text have the values that are given for their
names.  Then the text has no prompts, or it is filled, or there is one reason why it is not: all
values that do not suit, or the first one that cannot be shown (`FillResult`).
-/

namespace NoteTemplate

variable {prompts : List Prompt} {prompt : Prompt} {named : Keyed Text} {clock : Instant}

/-- The problem with what a prompt is given, as it is reported. -/
def Prompt.problemLine? (prompt : Prompt) (given : Option Text) : Option Text :=
  match CommandAction.namedProblem? prompt (given.getD []) with
  | .ok line => line
  | .error _ => none

/-- The problems with the values of a row of prompts. -/
def problemLines (prompts : List Prompt) (values : PromptValues) : List Text :=
  prompts.filterMap fun prompt => prompt.problemLine? (values.get? prompt.id)

/-- Values that do not suit stop the work on a note. -/
def Stop.ofProblems (problems : List Text) : Stop :=
  .misuse (.badValue (Text.join "; ".toList problems) (some "--set".toList))

/-- The values of the prompts as they are shown, or what stops the work. -/
def shownAnswers [LocalZone] (moment : Moment) (named : Keyed Text) (prompts : List Prompt) :
    Except Stop PromptValues :=
  let values := valuesFromNames prompts named
  match problemLines prompts values with
  | [] => (shownValues moment values prompts).mapError Stop.failure
  | problems => .error (.ofProblems problems)

/-- What filling a text leads to. -/
inductive FillResult where
  | noPrompts
  | refused (stop : Stop)
  | filled (text : Text)
deriving DecidableEq

/-- Fill a text whose prompts are numbered from `next` on. -/
def fillResult [LocalZone] (clock : Instant) (named : Keyed Text) (next : Nat) (content : Text) :
    FillResult :=
  let prompts := (extractNotePrompts next content).1
  if prompts.isEmpty then .noPrompts
  else
    match shownAnswers (.ofClock clock) named prompts with
    | .ok shown => .filled (fillNote prompts shown content)
    | .error stop => .refused stop

/-! ### The numbers of prompts do not count -/

/-- The texts that are shown for prompts without identifiers, or what stops the work. -/
def answersByName [LocalZone] (moment : Moment) (named : Keyed Text) (prompts : List Prompt) :
    Except Stop (List (Option Text)) :=
  match prompts.filterMap fun prompt => prompt.problemLine? (givenFor? named prompt.key) with
  | [] =>
    (prompts.mapM fun prompt : Prompt =>
      prompt.showGiven moment (givenFor? named prompt.key)).mapError Stop.failure
  | problems => .error (.ofProblems problems)

section

variable {α : Type} (hkeys : (prompts.map Prompt.key).Nodup) (next : Nat) (named : Keyed Text)

theorem map_numberPrompts {f : Prompt → α} (hf : ∀ prompt id, f { prompt with id := id } = f prompt)
    (next : Nat) (prompts : List Prompt) : (numberPrompts next prompts).map f = prompts.map f := by
  induction prompts generalizing next with
  | nil => rfl
  | cons prompt prompts ih => rw [numberPrompts, List.map_cons, List.map_cons, hf, ih]

include hkeys

/-- What is made of each prompt and its value is made of each prompt and what is given for its
name. -/
theorem map_numberPrompts_values {f : Prompt → Option Text → α}
    (hf : ∀ prompt id, f { prompt with id := id } = f prompt) :
    (numberPrompts next prompts).map (fun prompt =>
        f prompt ((valuesFromNames (numberPrompts next prompts) named).get? prompt.id)) =
      prompts.map fun prompt => f prompt (givenFor? named prompt.key) := by
  have hrow := isRow_numberPrompts hkeys next
  calc (numberPrompts next prompts).map (fun prompt =>
        f prompt ((valuesFromNames (numberPrompts next prompts) named).get? prompt.id))
      = (numberPrompts next prompts).map fun prompt => f prompt (givenFor? named prompt.key) :=
        List.map_congr_left fun prompt hprompt => by rw [hrow.get?_valuesFromNames hprompt]
    _ = prompts.map fun prompt => f prompt (givenFor? named prompt.key) :=
        map_numberPrompts (fun prompt id => by rw [hf]; rfl) next prompts

theorem problemLines_numberPrompts :
    problemLines (numberPrompts next prompts)
        (valuesFromNames (numberPrompts next prompts) named) =
      prompts.filterMap fun prompt => prompt.problemLine? (givenFor? named prompt.key) := by
  have hlines := map_numberPrompts_values (f := Prompt.problemLine?) hkeys next named
    fun _ _ => rfl
  have hfilter := congrArg (List.filterMap id) hlines
  rwa [List.filterMap_map, List.filterMap_map] at hfilter

/-- Numbered prompts have the answers that they have without their numbers. -/
theorem shownAnswers_numberPrompts [LocalZone] (moment : Moment) :
    match answersByName moment named prompts with
    | .ok texts => ∃ shown, shownAnswers moment named (numberPrompts next prompts) = .ok shown ∧
        IsShownAs (numberPrompts next prompts) shown texts
    | .error stop => shownAnswers moment named (numberPrompts next prompts) = .error stop := by
  have hmap : (numberPrompts next prompts).mapM (fun prompt => prompt.showGiven moment
        ((valuesFromNames (numberPrompts next prompts) named).get? prompt.id)) =
      prompts.mapM fun prompt => prompt.showGiven moment (givenFor? named prompt.key) := by
    have hshown := congrArg (List.mapM id) (map_numberPrompts_values
      (f := Prompt.showGiven moment) hkeys next named fun _ _ => rfl)
    rwa [List.mapM_map, List.mapM_map] at hshown
  have hcases := shownValues_cases (isRow_numberPrompts hkeys next).ids moment
    (valuesFromNames (numberPrompts next prompts) named)
  rw [hmap] at hcases
  rw [answersByName, shownAnswers, problemLines_numberPrompts hkeys]
  cases prompts.filterMap fun prompt => prompt.problemLine? (givenFor? named prompt.key) with
  | cons problem problems => rfl
  | nil =>
    dsimp only
    cases hanswers : prompts.mapM fun prompt =>
        prompt.showGiven moment (givenFor? named prompt.key) with
    | error failure =>
      rw [hanswers] at hcases
      rw [hcases]
      rfl
    | ok texts =>
      rw [hanswers] at hcases
      obtain ⟨shown, hshown, htexts⟩ := hcases
      rw [hshown]
      exact ⟨shown, rfl, htexts⟩

end

theorem IsShownAs.map_eq_zip {shown : PromptValues} {texts : List (Option Text)}
    (h : IsShownAs prompts shown texts) :
    prompts.map (fun prompt => (prompt.key, shown.get? prompt.id)) =
      (prompts.map Prompt.key).zip texts := by
  rw [← h.texts_eq, List.zip_map']

/-- What a text is filled with does not depend on the numbers of its prompts. -/
theorem fillResult_eq [LocalZone] (clock : Instant) (named : Keyed Text) (next : Nat)
    (content : Text) :
    fillResult clock named next content = fillResult clock named 0 content := by
  have hkeys := nodup_key_promptsOfTags (promptTagsOutsideCode content)
  generalize hbase : promptsOfTags (promptTagsOutsideCode content) = base at hkeys
  have hresult (next : Nat) : fillResult clock named next content =
      if (numberPrompts next base).isEmpty then .noPrompts
      else
        match shownAnswers (.ofClock clock) named (numberPrompts next base) with
        | .ok shown => .filled (fillNote (numberPrompts next base) shown content)
        | .error stop => .refused stop := by
    rw [← hbase]
    rfl
  have hempty (next : Nat) : (numberPrompts next base).isEmpty = base.isEmpty := by
    cases base <;> rfl
  have hanswers (next : Nat) := shownAnswers_numberPrompts hkeys next named (.ofClock clock)
  rw [hresult, hresult, hempty, hempty]
  cases hshown : answersByName (.ofClock clock) named base with
  | error stop =>
    rw [hshown] at hanswers
    rw [hanswers next, hanswers 0]
  | ok texts =>
    rw [hshown] at hanswers
    obtain ⟨shown, heq, htexts⟩ := hanswers next
    obtain ⟨shown', heq', htexts'⟩ := hanswers 0
    have hfill : fillNote (numberPrompts next base) shown content =
        fillNote (numberPrompts 0 base) shown' content := by
      apply fillNote_congr
      rw [htexts.map_eq_zip, htexts'.map_eq_zip, map_key_numberPrompts, map_key_numberPrompts]
    rw [heq, heq']
    simp only [hfill]

/-! ### Collecting the values -/

namespace CommandAction

variable [Styling]

theorem ends_collectOne (h : prompt.IsText) (collected : Collected) (before : Console) :
    (collectOne false collected prompt).Ends before
      (.ok { collected with
        problems := collected.problems ++
          (prompt.problemLine? (collected.values.get? prompt.id)).toList }) before := by
  obtain ⟨problem, hproblem⟩ := h.exists_valueProblem? ((collected.values.get? prompt.id).getD [])
  have hline : namedProblem? prompt ((collected.values.get? prompt.id).getD []) =
      .ok (problem.map fun problem => prompt.name ++ ": ".toList ++ problem.message) := by
    rw [namedProblem?, hproblem]
    rfl
  rw [collectOne, Prompt.problemLine?, hline, Bool.and_false, if_neg (by decide)]
  cases problem with
  | none =>
    dsimp only [Option.map_none, Option.toList_none]
    rw [List.append_nil]
    exact ends_pure _ _
  | some problem => exact ends_pure _ _

theorem ends_collectAll (h : ∀ prompt ∈ prompts, prompt.IsText) (collected : Collected)
    (before : Console) :
    (prompts.foldlM (collectOne false) collected).Ends before
      (.ok { collected with
        problems := collected.problems ++ problemLines prompts collected.values }) before := by
  induction prompts generalizing collected with
  | nil =>
    rw [problemLines, List.filterMap_nil, List.append_nil]
    exact ends_pure _ _
  | cons prompt prompts ih =>
    rw [List.foldlM_cons]
    refine (ends_collectOne (h prompt List.mem_cons_self) collected before).bind ?_
    have hrest := ih (fun other hother => h other (List.mem_cons_of_mem _ hother))
      { collected with
        problems := collected.problems ++
          (prompt.problemLine? (collected.values.get? prompt.id)).toList }
    have hlines : problemLines (prompt :: prompts) collected.values =
        (prompt.problemLine? (collected.values.get? prompt.id)).toList ++
          problemLines prompts collected.values := by
      rw [problemLines, List.filterMap_cons]
      cases prompt.problemLine? (collected.values.get? prompt.id) <;> rfl
    rw [hlines, ← List.append_assoc]
    exact hrest

/-- Without questions the values are those that are given, or all problems are reported. -/
theorem ends_collectValues (h : ∀ prompt ∈ prompts, prompt.IsText) (named : Keyed Text)
    (before : Console) :
    (collectValues prompts named false).Ends before
      (match problemLines prompts (valuesFromNames prompts named) with
      | [] => .ok (valuesFromNames prompts named)
      | problems => .error (.ofProblems problems)) before := by
  refine (ends_collectAll h ⟨valuesFromNames prompts named, []⟩ before).bind ?_
  dsimp only
  rw [List.nil_append]
  cases problemLines prompts (valuesFromNames prompts named) with
  | nil => exact ends_pure _ _
  | cons problem problems => exact ends_throw _ _

end CommandAction

end NoteTemplate
