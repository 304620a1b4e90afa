import NoteTemplate.Proofs.Creation.Advance
import NoteTemplate.Proofs.Title.Holes
import NoteTemplate.Proofs.Variable.Parting

/-!
# The text of a note

The text of a note is made in two steps.  The prompts are filled first, and for this the text
is cut like a title, into texts that are kept and holes for prompts.  Then the variables of
the whole text are filled, and a value that looks like a variable is one by then.  So the
pieces only decide the text as long as the values bring no variable tags with them and
complete none.
-/

namespace NoteTemplate

open NoteTemplate.Action

variable {plan : CreationPlan} {moment : Moment} {values shown : PromptValues}

/-- The pieces of a text whose first character is at position `pos`: a hole for every tag that
asks for one of the prompts, and the texts between the holes. -/
def notePiecesFrom (prompts : List Prompt) (pos : Nat) : List TagOccurrence → Text →
    List TitlePiece
  | [], text => [.literal text]
  | found :: tags, text =>
    match found.promptIn? prompts with
    | none => notePiecesFrom prompts pos tags text
    | some asked =>
      .literal (text.take (found.span.start - pos)) :: .hole asked ::
        notePiecesFrom prompts found.span.stop tags (text.drop (found.span.stop - pos))

/-- The text of a piece with the variables filled that the template has in it. -/
def TitlePiece.write [LocalZone] (context : RenderContext) : TitlePiece → Except Failure TitlePiece
  | .literal content => .literal <$> fillVariables context content
  | .hole asked => .ok (.hole asked)

namespace CreationPlan

/-- The pieces of the text that a plan starts from; code blocks have no holes. -/
def pieces (plan : CreationPlan) : List TitlePiece :=
  let content := plan.content.getD []
  notePiecesFrom plan.notePrompts 0 (promptTagsOutsideCode content) content

/-- The pieces with their variables filled, before any value is known. -/
def writtenPieces [LocalZone] (plan : CreationPlan) (title : Option Text)
    (settings : DateTimeSettings) (moment : Moment) : Except Failure (List TitlePiece) :=
  plan.pieces.mapM (TitlePiece.write ⟨settings, moment.now, plan.counter, .note title⟩)

/-- The texts of the pieces when the prompts have these values. -/
def parts (plan : CreationPlan) (shown : PromptValues) : List Text :=
  plan.pieces.map (TitlePiece.shown (Prompt.answer shown))

end CreationPlan

/-! ### The two steps -/

theorem replaceSpansFrom_tags (prompts : List Prompt) (values : PromptValues) (pos : Nat)
    (tags : List TagOccurrence) (text : Text) :
    Text.replaceSpansFrom pos (tags.filterMap fun found =>
        (found.promptIn? prompts).map fun asked => (found.span, asked.fill .final values)) text =
      (notePiecesFrom prompts pos tags text).flatMap
        (TitlePiece.shown (Prompt.answer values)) := by
  induction tags generalizing pos text with
  | nil => simp [notePiecesFrom, Text.replaceSpansFrom, TitlePiece.shown]
  | cons found tags ih =>
    rw [notePiecesFrom, List.filterMap_cons]
    cases found.promptIn? prompts with
    | none => exact ih pos text
    | some asked =>
      simp only [Option.map_some, Text.replaceSpansFrom, List.flatMap_cons, TitlePiece.shown]
      rw [ih, Prompt.fill_final, List.append_assoc]

theorem fillNote_eq (prompts : List Prompt) (values : PromptValues) (text : Text) :
    fillNote prompts values text =
      (notePiecesFrom prompts 0 (promptTagsOutsideCode text) text).flatMap
        (TitlePiece.shown (Prompt.answer values)) :=
  replaceSpansFrom_tags prompts values 0 _ text

/-- A text without variable tags is kept. -/
theorem fillVariables_of_variableTags_eq_nil [LocalZone] {context : RenderContext} {text : Text}
    (h : variableTags text = []) : fillVariables context text = .ok text := by
  rw [fillVariables, h]
  rfl

theorem CreationPlan.noteText_eq [LocalZone] (title : Option Text) (settings : DateTimeSettings)
    (hshown : shownValues moment values plan.notePrompts = .ok shown) :
    plan.noteText title settings moment values =
      fillVariables ⟨settings, moment.now, plan.counter, .note title⟩
        (plan.parts shown).flatten := by
  rw [CreationPlan.noteText, parts, pieces, ← List.flatMap_def]
  cases hcontent : plan.content with
  | none => rfl
  | some content =>
    cases content with
    | nil => rfl
    | cons c rest =>
      simp only [hshown, Option.getD_some]
      rw [← fillNote_eq]
      rfl

/-- Filling the variables of each piece, where the values bring none. -/
theorem mapM_fillVariables_shown [LocalZone] {context : RenderContext} {answer : Prompt → Text}
    {pieces : List TitlePiece}
    (hplain : ∀ asked, .hole asked ∈ pieces → variableTags (answer asked) = []) :
    (pieces.map (TitlePiece.shown answer)).mapM (fillVariables context) =
      (pieces.mapM (TitlePiece.write context)).map
        (List.map (TitlePiece.shown answer)) := by
  induction pieces with
  | nil => rfl
  | cons piece pieces ih =>
    rw [List.map_cons, List.mapM_cons, List.mapM_cons,
      ih fun asked hasked => hplain asked (List.mem_cons_of_mem _ hasked)]
    have hpiece : fillVariables context (piece.shown answer) =
        (piece.write context).map (TitlePiece.shown answer) := by
      cases piece with
      | literal content =>
        simp only [TitlePiece.shown, TitlePiece.write]
        cases fillVariables context content <;> rfl
      | hole asked =>
        exact fillVariables_of_variableTags_eq_nil (hplain asked List.mem_cons_self)
    rw [hpiece]
    cases piece.write context with
    | error failure => rfl
    | ok written =>
      cases pieces.mapM (TitlePiece.write context) <;> rfl

/-- The variables are filled in the whole text, values included.  When no variable tag lies
across the edge of a value, the variables of every piece are filled apart, and those of the
values are filled too.  So a value is kept when it has none. -/
theorem CreationPlan.noteText_of_parts [LocalZone] (title : Option Text)
    (settings : DateTimeSettings) (hshown : shownValues moment values plan.notePrompts = .ok shown) :
    plan.noteText title settings moment values =
        fillVariables ⟨settings, moment.now, plan.counter, .note title⟩
          (plan.parts shown).flatten ∧
      ((∀ found ∈ variableTags (plan.parts shown).flatten,
          LiesInPart 0 (plan.parts shown) found.span) →
        plan.noteText title settings moment values =
            ((plan.parts shown).mapM (fillVariables
              ⟨settings, moment.now, plan.counter, .note title⟩)).map List.flatten ∧
          ((∀ asked, .hole asked ∈ plan.pieces → variableTags (asked.answer shown) = []) →
            plan.noteText title settings moment values =
              (plan.writtenPieces title settings moment).map fun pieces =>
                pieces.flatMap (TitlePiece.shown (Prompt.answer shown)))) := by
  have htext := noteText_eq title settings hshown
  refine ⟨htext, fun hclear => ?_⟩
  have hparts := htext.trans (fillVariables_flatten hclear)
  refine ⟨hparts, fun hplain => ?_⟩
  rw [hparts, parts, mapM_fillVariables_shown hplain, writtenPieces]
  cases plan.pieces.mapM (m := Except Failure) (TitlePiece.write _) with
  | error failure => rfl
  | ok written => simp [Except.map, List.flatMap_def]

/-! ### A note for a guest -/

/-- A template whose notes start from a file. -/
def guestTemplate : Template :=
  { dayTemplate "Note".toList with fileTemplate := some (.text "Start.md".toList) }

/-- The only prompt of the file. -/
def guestPrompt : Prompt where
  name := "X".toList
  valueType := .text
  isOptional := false
  dateConfig := none
  timeConfig := none
  options := none
  id := promptId 1
  isInlineConfigured := false

def guestPlan (content : Text) : CreationPlan :=
  ⟨guestTemplate, vaultRoot, none, [], [guestPrompt], some content⟩

/-- The diary with a file to start from. -/
def guestSession (content : Text) : Session where
  tree := ⟨[(["vault".toList], .folder),
    (["vault".toList, "Start.md".toList], .file (.text content))], .usual⟩
  here := []
  notices := []
  nextPrompt := 1
  maxNesting := 900

/-- A prompt that is greeted with the title of the note. -/
def greeting : Text := "\x7b\x7btitle\x7d\x7d for \x7b% X %\x7d".toList

theorem pieces_greeting : (guestPlan greeting).pieces =
    [.literal "\x7b\x7btitle\x7d\x7d for ".toList, .hole guestPrompt, .literal []] := by
  decide +kernel

section

attribute [local instance] LocalZone.utc Markup.styling

/-- Two opening braces complete no tag here, so they are kept. -/
theorem noteText_of_openBraces :
    shownValues dayMoment [(promptId 1, "\x7b\x7b".toList)] (guestPlan greeting).notePrompts =
        .ok [(promptId 1, "\x7b\x7b".toList)] ∧
      (guestPlan greeting).noteText (some "Note".toList) .default dayMoment
          [(promptId 1, "\x7b\x7b".toList)] = .ok "Note for \x7b\x7b".toList := by
  have hshown : shownValues dayMoment [(promptId 1, "\x7b\x7b".toList)]
      (guestPlan greeting).notePrompts = .ok [(promptId 1, "\x7b\x7b".toList)] := by
    decide +kernel
  have hclear : ∀ found ∈ variableTags
      ((guestPlan greeting).parts [(promptId 1, "\x7b\x7b".toList)]).flatten,
      LiesInPart 0 ((guestPlan greeting).parts [(promptId 1, "\x7b\x7b".toList)]) found.span := by
    decide +kernel
  have hplain : ∀ asked, .hole asked ∈ (guestPlan greeting).pieces →
      variableTags (asked.answer [(promptId 1, "\x7b\x7b".toList)]) = [] := by
    intro asked hasked
    rw [pieces_greeting] at hasked
    obtain rfl : asked = guestPrompt := by simpa using hasked
    decide +kernel
  have htext := ((CreationPlan.noteText_of_parts (some "Note".toList) .default hshown).2
    hclear).2 hplain
  exact ⟨hshown, htext.trans (by decide +kernel)⟩

/-- A file that has nothing but a prompt. -/
def onlyPrompt : Text := "\x7b% X %\x7d".toList

/-- No pieces give the text of such a note for all values: the letter is kept, but the tag of
the title turns into the title. -/
theorem not_exists_pieces_of_titleValue :
    (diary.planNote .default guestTemplate none vaultRoot).Gives
        (guestSession onlyPrompt) (guestPlan onlyPrompt)
        { guestSession onlyPrompt with nextPrompt := 2 } ∧
      ¬ ∃ pieces : List TitlePiece, ∀ values shown,
        shownValues dayMoment values (guestPlan onlyPrompt).notePrompts = .ok shown →
          (guestPlan onlyPrompt).noteText (some "Note".toList) .default dayMoment values =
            .ok (pieces.flatMap (TitlePiece.shown (Prompt.answer shown))) := by
  refine ⟨by unfold Gives; decide +kernel, ?_⟩
  rintro ⟨pieces, hpieces⟩
  have htitle : "Note".toList = pieces.flatMap (TitlePiece.shown
      (Prompt.answer [(promptId 1, "\x7b\x7btitle\x7d\x7d".toList)])) := by
    have htext := hpieces [(promptId 1, "\x7b\x7btitle\x7d\x7d".toList)] _ rfl
    exact Except.ok.inj (Eq.trans (by decide +kernel) htext)
  have hletter : "a".toList = pieces.flatMap (TitlePiece.shown
      (Prompt.answer [(promptId 1, "a".toList)])) := by
    have htext := hpieces [(promptId 1, "a".toList)] _ rfl
    exact Except.ok.inj (Eq.trans (by decide +kernel) htext)
  -- A hole for the prompt would show braces, so there is none and the value does not matter.
  have hsame : ∀ piece ∈ pieces,
      piece.shown (Prompt.answer [(promptId 1, "\x7b\x7btitle\x7d\x7d".toList)]) =
        piece.shown (Prompt.answer [(promptId 1, "a".toList)]) := by
    intro piece hpiece
    cases piece with
    | literal content => rfl
    | hole asked =>
      by_cases hid : promptId 1 = asked.id
      · have hbrace : '\x7b' ∈ "Note".toList := by
          rw [htitle]
          refine List.mem_flatMap.2 ⟨_, hpiece, ?_⟩
          simp [TitlePiece.shown, Prompt.answer, Keyed.get?, hid]
        exact absurd hbrace (by decide)
      · simp [TitlePiece.shown, Prompt.answer, Keyed.get?, hid]
  have hboth : "Note".toList = "a".toList := by
    rw [htitle, hletter, List.flatMap_def, List.flatMap_def, List.map_congr_left hsame]
  exact absurd hboth (by decide)

end

end NoteTemplate
