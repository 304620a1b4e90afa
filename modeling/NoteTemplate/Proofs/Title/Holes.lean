import NoteTemplate.Proofs.Text.Slice
import NoteTemplate.Proofs.Title.Choice
import NoteTemplate.Proofs.Title.Walk

/-!
# Holes in a title

A title is cut at its tags before any value is looked at.  The pieces are the texts between
the tags, which are kept, what the variables show, and holes for prompts.  A value only
decides what stands in a hole, so braces in it complete nothing and are read by nobody.
-/

namespace NoteTemplate

variable {context : RenderContext} {prompts : List Prompt} {pattern source : Text} {pos : Nat}
  {chosen tags : List (Occurrence TitleTag)} {pieces : List TitlePiece} {piece : TitlePiece}
  {tag : TitleTag} {failure : Failure}

/-- What stands in the place of a tag, whatever the values are; `source` is the tag as it is
written. -/
inductive TitleTag.Shows [LocalZone] (context : RenderContext) (prompts : List Prompt)
    (source : Text) : TitleTag → TitlePiece → Prop where
  | value {wanted : VariableTag} {value : Text} (h : context.renderTag wanted = .ok (some value)) :
      Shows context prompts source (.variable wanted) (.literal value)
  | unknown {wanted : VariableTag} (h : context.renderTag wanted = .ok none) :
      Shows context prompts source (.variable wanted) (.literal source)
  | asked {wanted : PromptTag} {asked : Prompt}
      (h : TagOccurrence.promptIn? prompts ⟨⟨0, 0⟩, wanted⟩ = some asked) :
      Shows context prompts source (.prompt wanted) (.hole asked)
  | unresolved {wanted : PromptTag} (h : TagOccurrence.promptIn? prompts ⟨⟨0, 0⟩, wanted⟩ = none) :
      Shows context prompts source (.prompt wanted) (.literal source)

/-- The pieces into which tags cut a pattern from a position on: the text in front of a tag,
and what the tag shows, as long as there are tags, and then the rest. -/
inductive Cuts [LocalZone] (context : RenderContext) (prompts : List Prompt) (pattern : Text) :
    Nat → List (Occurrence TitleTag) → List TitlePiece → Prop where
  | rest {pos : Nat} : Cuts context prompts pattern pos [] [.literal (pattern.drop pos)]
  | tag {pos : Nat} {found : Occurrence TitleTag} {tags : List (Occurrence TitleTag)}
      {piece : TitlePiece} {pieces : List TitlePiece}
      (shows : found.value.Shows context prompts (found.span.of pattern) piece)
      (later : Cuts context prompts pattern found.span.stop tags pieces) :
      Cuts context prompts pattern pos (found :: tags)
        (.literal (Text.slice pattern pos found.span.start) :: piece :: pieces)

/-- The text of a piece when prompts have these answers. -/
def TitlePiece.shown (answer : Prompt → Text) : TitlePiece → Text
  | .literal content => content
  | .hole asked => answer asked

/-- The value of a prompt, which is empty when there is none. -/
def Prompt.answer (values : PromptValues) (asked : Prompt) : Text :=
  (values.get? asked.id).getD []

/-- What a preview shows for a prompt: its name in brackets instead of nothing. -/
def Prompt.answerOrName (values : PromptValues) (asked : Prompt) : Text :=
  if asked.answer values = [] then '[' :: asked.name ++ [']'] else asked.answer values

theorem Prompt.fill_final (values : PromptValues) (asked : Prompt) :
    asked.fill .final values = asked.answer values := rfl

theorem Prompt.fill_preview (values : PromptValues) (asked : Prompt) :
    asked.fill .preview values = asked.answerOrName values := by
  unfold Prompt.fill answerOrName answer
  generalize (values.get? asked.id).getD [] = value
  cases value with
  | nil => rfl
  | cons c rest => rfl

theorem TitlePiece.fill_final (values : PromptValues) :
    TitlePiece.fill .final values = TitlePiece.shown (Prompt.answer values) := by
  funext piece
  cases piece with
  | literal content => rfl
  | hole asked => exact asked.fill_final values

theorem TitlePiece.fill_preview (values : PromptValues) :
    TitlePiece.fill .preview values = TitlePiece.shown (Prompt.answerOrName values) := by
  funext piece
  cases piece with
  | literal content => rfl
  | hole asked => exact asked.fill_preview values

/-! ### Cutting -/

theorem TitleTag.piece_iff [LocalZone] : tag.piece context prompts source = .ok piece ↔
    tag.Shows context prompts source piece := by
  rcases tag with wanted | wanted
  · rw [TitleTag.piece]
    constructor
    · intro h
      cases hvalue : context.renderTag wanted with
      | error failure => simp [hvalue, bind, Except.bind] at h
      | ok shown =>
        rw [hvalue] at h
        obtain rfl := Except.ok.inj h
        cases shown with
        | none => exact .unknown hvalue
        | some value => exact .value hvalue
    · intro h
      cases h with
      | value h => rw [h]; rfl
      | unknown h => rw [h]; rfl
  · rw [TitleTag.piece]
    constructor
    · intro h
      obtain rfl := Except.ok.inj h
      cases hasked : TagOccurrence.promptIn? prompts ⟨⟨0, 0⟩, wanted⟩ with
      | none => exact .unresolved hasked
      | some asked => exact .asked hasked
    · intro h
      cases h with
      | asked h => rw [h]
      | unresolved h => rw [h]

theorem TitleTag.exists_variable_of_piece [LocalZone]
    (h : tag.piece context prompts source = .error failure) :
    ∃ wanted, tag = .variable wanted ∧ context.renderTag wanted = .error failure := by
  rcases tag with wanted | wanted
  · refine ⟨wanted, rfl, ?_⟩
    rw [TitleTag.piece] at h
    cases hvalue : context.renderTag wanted with
    | error other =>
      rw [hvalue] at h
      rw [Except.error.inj h]
    | ok shown => simp [hvalue, bind, Except.bind, pure, Except.pure] at h
  · simp [TitleTag.piece] at h

theorem titlePiecesFrom_drop_iff [LocalZone] (hplaced : ArePlaced pos tags) :
    titlePiecesFrom context prompts pos tags (pattern.drop pos) = .ok pieces ↔
      Cuts context prompts pattern pos tags pieces := by
  induction tags generalizing pos pieces with
  | nil =>
    rw [titlePiecesFrom_nil]
    constructor
    · intro h
      obtain rfl := Except.ok.inj h
      exact .rest
    · rintro ⟨⟩
      rfl
  | cons found tags ih =>
    obtain ⟨hpos, horder, htags⟩ := hplaced
    have hrest : pos + (found.span.stop - pos) = found.span.stop := by omega
    rw [titlePiecesFrom_cons_iff, Text.slice_drop pattern hpos, List.drop_drop, hrest]
    constructor
    · rintro ⟨piece, later, hpiece, hlater, rfl⟩
      exact .tag (TitleTag.piece_iff.1 hpiece) ((ih htags).1 hlater)
    · rintro (_ | ⟨hshows, hlater⟩)
      exact ⟨_, _, TitleTag.piece_iff.2 hshows, (ih htags).2 hlater, rfl⟩

theorem exists_tag_of_titlePiecesFrom [LocalZone] {text : Text}
    (h : titlePiecesFrom context prompts pos tags text = .error failure) :
    ∃ found ∈ tags, ∃ wanted, found.value = .variable wanted ∧
      context.renderTag wanted = .error failure := by
  induction tags generalizing pos text with
  | nil => simp [titlePiecesFrom] at h
  | cons found tags ih =>
    rw [titlePiecesFrom] at h
    simp only [bind, Except.bind] at h
    split at h
    · next hpiece =>
      obtain rfl := Except.error.inj h
      exact ⟨found, List.mem_cons_self, TitleTag.exists_variable_of_piece hpiece⟩
    · split at h
      · next hlater =>
        obtain rfl := Except.error.inj h
        obtain ⟨other, hother, hfails⟩ := ih hlater
        exact ⟨other, List.mem_cons_of_mem _ hother, hfails⟩
      · simp [pure, Except.pure] at h

/-! ### Titles with values -/

/-- The tags that count cut a pattern into pieces that do not depend on the values.  The title
is what the pieces show, with a value or nothing in each hole, and its preview has the name of
the prompt where there is nothing.  Only a variable that cannot be shown stops both, and it
does so for all values. -/
theorem exists_pieces_renderTitle [LocalZone] (context : RenderContext) (prompts : List Prompt)
    (pattern : Text) :
    ∃ chosen, IsChoice pattern (!prompts.isEmpty) chosen ∧
      ((∃ failure, (∃ found ∈ chosen, ∃ wanted, found.value = .variable wanted ∧
          context.renderTag wanted = .error failure) ∧
        ∀ mode values, renderTitle mode context prompts values pattern = .error failure) ∨
      ∃ pieces, Cuts context prompts pattern 0 chosen pieces ∧ ∀ values,
        renderTitle .final context prompts values pattern =
            .ok (pieces.flatMap (TitlePiece.shown (Prompt.answer values))) ∧
          renderTitle .preview context prompts values pattern =
            .ok (pieces.flatMap (TitlePiece.shown (Prompt.answerOrName values)))) := by
  refine ⟨_, isChoice_chosenTitleTags pattern (!prompts.isEmpty), ?_⟩
  cases hpieces : titlePieces context prompts pattern with
  | error failure =>
    refine Or.inl ⟨failure, exists_tag_of_titlePiecesFrom hpieces, fun mode values => ?_⟩
    rw [renderTitle, hpieces]
    rfl
  | ok pieces =>
    have hcuts : Cuts context prompts pattern 0 (chosenTitleTags pattern !prompts.isEmpty) pieces :=
      (titlePiecesFrom_drop_iff (arePlaced_chosenTitleTags pattern _)).1 hpieces
    refine Or.inr ⟨pieces, hcuts, fun values => ⟨?_, ?_⟩⟩
    · exact renderTitle_iff.2 ⟨pieces, hpieces, by rw [TitlePiece.fill_final]⟩
    · exact renderTitle_iff.2 ⟨pieces, hpieces, by rw [TitlePiece.fill_preview]⟩

section

attribute [local instance] LocalZone.utc

/-- The fourteenth of March, without a number. -/
def marchContext : RenderContext where
  settings := .default
  instant := ⟨⟨2024, 3, 14, by decide⟩, .midnight, none, false⟩
  counter := none
  place := .filename

/-- A date that stands inside a prompt tag. -/
def datedPrompt : Text := "\x7b% \x7b\x7bdate\x7d\x7d %\x7d".toList

theorem renderTitle_datedPrompt : renderTitle .final marchContext [] [] datedPrompt =
    .ok "\x7b% 2024-03-14 %\x7d".toList := by
  rw [renderTitle, titlePieces_nil]
  decide +kernel

/-- When nothing is asked for, prompt tags do not count.  Here one starts before a date and
reaches over it, no tag stands earlier, and still the date is filled in. -/
theorem not_exists_pieces_datedPrompt :
    ¬ ∃ chosen pieces, IsChoice datedPrompt true chosen ∧
      Cuts marchContext [] datedPrompt 0 chosen pieces ∧
      ∀ values, renderTitle .final marchContext [] values datedPrompt =
        .ok (pieces.flatMap (TitlePiece.shown (Prompt.answer values))) := by
  rintro ⟨chosen, pieces, hchoice, hcuts, hrender⟩
  have hchosen : chosenTitleTags datedPrompt true =
      [⟨⟨0, 14⟩, .prompt ⟨false, " \x7b\x7bdate\x7d\x7d".toList, false⟩⟩] := by
    have hvariables : (variableTags datedPrompt).map (Occurrence.map TitleTag.variable) =
        [⟨⟨3, 11⟩, .variable ⟨"date".toList, none⟩⟩] := by decide +kernel
    have hprompts : (promptTags datedPrompt).map (Occurrence.map TitleTag.prompt) =
        [⟨⟨0, 14⟩, .prompt ⟨false, " \x7b\x7bdate\x7d\x7d".toList, false⟩⟩] := by decide +kernel
    rw [chosenTitleTags, titleTags, hvariables, if_pos rfl, hprompts]
    simp [disjointFrom]
  rw [hchoice.eq (isChoice_chosenTitleTags _ _), hchosen] at hcuts
  have hplaced := arePlaced_chosenTitleTags datedPrompt true
  rw [hchosen] at hplaced
  have hkept := (titlePiecesFrom_drop_iff hplaced).2 hcuts
  have hshown := hrender []
  rw [renderTitle_datedPrompt] at hshown
  obtain rfl : [.literal [], .literal datedPrompt, .literal []] = pieces :=
    Except.ok.inj hkept
  exact absurd hshown (by decide +kernel)

end

end NoteTemplate
