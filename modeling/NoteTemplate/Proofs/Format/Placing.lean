import NoteTemplate.Format.Piece
import NoteTemplate.Proofs.Text.Slice

/-!
# Where the pieces of a format stand

The pieces of a format are placed one directly after the other.  None of them is empty, so
they part the format from its first character to its last one, and each of them reads as the
piece that was placed there.
-/

namespace NoteTemplate

variable {text : Text} {start stop offset : Nat} {spans : List (Span Nat)}
  {pieces : List FormatPiece}

/-- The stretches lead from one place to another without a gap, and none of them is empty. -/
inductive AreAdjoined : Nat → List (Span Nat) → Nat → Prop where
  | nil (pos : Nat) : AreAdjoined pos [] pos
  | cons {start middle stop : Nat} {spans : List (Span Nat)} (hlt : start < middle)
      (hrest : AreAdjoined middle spans stop) : AreAdjoined start (⟨start, middle⟩ :: spans) stop

namespace AreAdjoined

theorem start_le_stop (h : AreAdjoined start spans stop) : start ≤ stop := by
  induction h with
  | nil pos => exact Nat.le_refl pos
  | cons hlt hrest ih => exact Nat.le_trans (Nat.le_of_lt hlt) ih

theorem inside (h : AreAdjoined start spans stop) :
    ∀ span ∈ spans, start ≤ span.start ∧ span.start < span.stop ∧ span.stop ≤ stop := by
  induction h with
  | nil pos =>
    intro span hspan
    exact absurd hspan List.not_mem_nil
  | cons hlt hrest ih =>
    intro span hspan
    rcases List.mem_cons.1 hspan with rfl | hspan
    · exact ⟨Nat.le_refl _, hlt, hrest.start_le_stop⟩
    · obtain ⟨hstart, hinside⟩ := ih span hspan
      exact ⟨Nat.le_trans (Nat.le_of_lt hlt) hstart, hinside⟩

theorem pairwise (h : AreAdjoined start spans stop) :
    spans.Pairwise fun left right => left.stop ≤ right.start := by
  induction h with
  | nil pos => exact List.Pairwise.nil
  | cons hlt hrest ih =>
    exact List.pairwise_cons.2 ⟨fun span hspan => (hrest.inside span hspan).1, ih⟩

theorem map_add (h : AreAdjoined start spans stop) (offset : Nat) :
    AreAdjoined (start + offset) (spans.map (Span.map (· + offset))) (stop + offset) := by
  induction h with
  | nil pos => exact .nil _
  | cons hlt hrest ih => exact .cons (Nat.add_lt_add_right hlt offset) ih

end AreAdjoined

/-! ### The pieces of a format -/

theorem FormatPiece.text_ne_nil_of_mem_consLiteral {c : Char} {piece : FormatPiece}
    (h : ∀ piece ∈ pieces, piece.text ≠ []) (hpiece : piece ∈ consLiteral c pieces) :
    piece.text ≠ [] := by
  unfold consLiteral at hpiece
  split at hpiece
  · rcases List.mem_cons.1 hpiece with rfl | hpiece
    · exact List.cons_ne_nil _ _
    · exact h piece (List.mem_cons_of_mem _ hpiece)
  · rcases List.mem_cons.1 hpiece with rfl | hpiece
    · exact List.cons_ne_nil _ _
    · exact h piece hpiece

theorem FormatPiece.text_ne_nil_of_mem_scan {skip : Nat} {format : Text} :
    ∀ piece ∈ scan skip format, piece.text ≠ [] := by
  induction format generalizing skip with
  | nil =>
    intro piece hpiece
    rw [scan] at hpiece
    exact absurd hpiece List.not_mem_nil
  | cons c rest ih =>
    intro piece hpiece
    cases skip with
    | succ skip => exact ih piece hpiece
    | zero =>
      rw [scan] at hpiece
      split at hpiece
      · next found hfound =>
        rcases List.mem_cons.1 hpiece with rfl | hpiece
        · exact found.symbol_ne_nil
        · exact ih piece hpiece
      · exact text_ne_nil_of_mem_consLiteral ih hpiece

theorem text_ne_nil_of_mem_formatPieces (format : Text) :
    ∀ piece ∈ formatPieces format, piece.text ≠ [] :=
  FormatPiece.text_ne_nil_of_mem_scan

/-! ### The pieces in their places -/

/-- Pieces may be placed anywhere and then moved. -/
theorem map_add_placePieces (start offset : Nat) (pieces : List FormatPiece) :
    (placePieces start pieces).map (FormatPart.map (· + offset)) =
      placePieces (start + offset) pieces := by
  induction pieces generalizing start with
  | nil => rfl
  | cons piece pieces ih =>
    have hstop : start + piece.text.length + offset = start + offset + piece.text.length := by
      omega
    simp only [placePieces, List.map_cons, ih, hstop, FormatPart.map, Span.map]

theorem map_add_formatParts (format : Text) (offset : Nat) :
    (formatParts format).map (FormatPart.map (· + offset)) =
      placePieces offset (formatPieces format) := by
  rw [formatParts, map_add_placePieces, Nat.zero_add]

theorem areAdjoined_placePieces (start : Nat) (h : ∀ piece ∈ pieces, piece.text ≠ []) :
    AreAdjoined start ((placePieces start pieces).map FormatPart.span)
      (start + (pieces.flatMap FormatPiece.text).length) := by
  induction pieces generalizing start with
  | nil => exact .nil start
  | cons piece pieces ih =>
    have hpos := List.length_pos_iff.2 (h piece List.mem_cons_self)
    rw [List.flatMap_cons, List.length_append, ← Nat.add_assoc]
    exact .cons (Nat.lt_add_of_pos_right hpos)
      (ih _ fun other hother => h other (List.mem_cons_of_mem _ hother))

/-- The parts of a format, moved anywhere, leave no gap. -/
theorem areAdjoined_formatParts (format : Text) (offset : Nat) :
    AreAdjoined offset (((formatParts format).map FormatPart.span).map (Span.map (· + offset)))
      (offset + format.length) := by
  have hadjoined := (areAdjoined_placePieces 0
    (text_ne_nil_of_mem_formatPieces format)).map_add offset
  rwa [flatMap_formatPieces, Nat.zero_add, Nat.zero_add, Nat.add_comm] at hadjoined

/-- Each piece reads as it was placed. -/
theorem span_of_placePieces (h : pieces.flatMap FormatPiece.text <+: text.drop start) :
    ∀ part ∈ placePieces start pieces, part.span.of text = part.piece.text := by
  induction pieces generalizing start with
  | nil =>
    intro part hpart
    exact absurd hpart List.not_mem_nil
  | cons piece pieces ih =>
    intro part hpart
    rw [List.flatMap_cons, Text.append_prefix_drop_iff] at h
    rcases List.mem_cons.1 hpart with rfl | hpart
    · exact Text.slice_eq_of_prefix_drop h.1
    · exact ih h.2 part hpart

theorem map_piece_placePieces (start : Nat) (pieces : List FormatPiece) :
    (placePieces start pieces).map FormatPart.piece = pieces := by
  induction pieces generalizing start with
  | nil => rfl
  | cons piece pieces ih => rw [placePieces, List.map_cons, ih]

/-- What the placed pieces of a format read, put together, is the format. -/
theorem flatMap_span_of_formatPieces {format : Text} (h : format <+: text.drop start) :
    (placePieces start (formatPieces format)).flatMap (fun part => part.span.of text) =
      format := by
  have hformat := flatMap_formatPieces format
  have hread := span_of_placePieces (hformat.symm ▸ h)
  calc
    (placePieces start (formatPieces format)).flatMap (fun part => part.span.of text)
    _ = (placePieces start (formatPieces format)).flatMap (fun part => part.piece.text) :=
      by rw [List.flatMap_def, List.flatMap_def, List.map_congr_left hread]
    _ = ((placePieces start (formatPieces format)).map FormatPart.piece).flatMap
          FormatPiece.text := by rw [List.flatMap_map]
    _ = format := by rw [map_piece_placePieces, hformat]

end NoteTemplate
