import NoteTemplate.Proofs.Title.Chosen

/-!
# Walking over a title

A title is rendered tag by tag.  What stands before a tag, what the tag becomes and what
stands behind it are rendered apart, and a side without tags is kept as it is.
-/

namespace NoteTemplate

variable [LocalZone] {context : RenderContext} {prompts : List Prompt} {pos : Nat}
  {text pattern title : Text} {tag : Occurrence TitleTag}
  {earlier later tags : List (Occurrence TitleTag)} {pieces : List TitlePiece} {mode : FillMode} {values : PromptValues}

theorem titlePiecesFrom_nil :
    titlePiecesFrom context prompts pos [] text = .ok [.literal text] := rfl

theorem titlePiecesFrom_cons_iff :
    titlePiecesFrom context prompts pos (tag :: tags) text = .ok pieces ↔
      ∃ piece rest,
        tag.value.piece context prompts
          (Text.slice text (tag.span.start - pos) (tag.span.stop - pos)) = .ok piece ∧
        titlePiecesFrom context prompts tag.span.stop tags (text.drop (tag.span.stop - pos)) =
          .ok rest ∧
        pieces = .literal (text.take (tag.span.start - pos)) :: piece :: rest := by
  rw [titlePiecesFrom]
  simp only [bind, Except.bind, pure, Except.pure]
  cases hpiece : tag.value.piece context prompts
      (Text.slice text (tag.span.start - pos) (tag.span.stop - pos)) with
  | error failure => simp
  | ok piece =>
    cases hrest : titlePiecesFrom context prompts tag.span.stop tags
        (text.drop (tag.span.stop - pos)) with
    | error failure => simp
    | ok rest => simp [eq_comm]

/-- A tag parts the pieces of a title. -/
theorem exists_pieces_of_append (hplaced : ArePlaced pos (earlier ++ tag :: later))
    (h : titlePiecesFrom context prompts pos (earlier ++ tag :: later) text = .ok pieces) :
    ∃ front source piece behind, pieces = front ++ piece :: behind ∧
      tag.value.piece context prompts source = .ok piece ∧
      titlePiecesFrom context prompts tag.span.stop later (text.drop (tag.span.stop - pos)) =
        .ok behind ∧
      (earlier = [] → front = [.literal (text.take (tag.span.start - pos))]) := by
  induction earlier generalizing pos text pieces with
  | nil =>
    obtain ⟨piece, behind, hpiece, hbehind, rfl⟩ := titlePiecesFrom_cons_iff.1 h
    exact ⟨[.literal _], _, piece, behind, rfl, hpiece, hbehind, fun _ => rfl⟩
  | cons first earlier ih =>
    obtain ⟨other, rest, -, hrest, rfl⟩ := titlePiecesFrom_cons_iff.1 h
    obtain ⟨hpos, horder, htail⟩ := hplaced
    obtain ⟨front, source, piece, behind, rfl, hpiece, hbehind, -⟩ := ih htail hrest
    have hmem : tag ∈ earlier ++ tag :: later := by simp
    have hstart := htail.le_start hmem
    have hstop := htail.start_le_stop hmem
    rw [List.drop_drop] at hbehind
    have hsum : first.span.stop - pos + (tag.span.stop - first.span.stop) = tag.span.stop - pos := by
      omega
    rw [hsum] at hbehind
    exact ⟨.literal _ :: other :: front, source, piece, behind, rfl, hpiece, hbehind, by simp⟩

/-- The title is what its pieces show. -/
theorem renderTitle_iff :
    renderTitle mode context prompts values pattern = .ok title ↔
      ∃ pieces, titlePieces context prompts pattern = .ok pieces ∧
        title = pieces.flatMap (TitlePiece.fill mode values) := by
  rw [renderTitle]
  simp only [bind, Except.bind, pure, Except.pure]
  cases titlePieces context prompts pattern with
  | error failure => simp
  | ok pieces => simp [eq_comm]

end NoteTemplate
