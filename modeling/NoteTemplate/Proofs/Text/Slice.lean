import NoteTemplate.Text.Occurrence

/-!
# Parts of a text in their places

A part stands at a place of a text when the text from there on begins with it.  Parts of
parts keep their places, moved by the place of the part (`prefix_drop_trans`).
-/

namespace NoteTemplate.Text

variable {text part left right : Text} {start stop pos : Nat}

theorem length_slice (h : stop ≤ text.length) : (slice text start stop).length = stop - start := by
  rw [slice, List.length_take, List.length_drop]
  omega

theorem slice_eq_of_prefix_drop (h : part <+: text.drop start) :
    slice text start (start + part.length) = part := by
  rw [slice, Nat.add_sub_cancel_left]
  exact (List.prefix_iff_eq_take.1 h).symm

theorem slice_prefix_drop (text : Text) (start stop : Nat) :
    slice text start stop <+: text.drop start :=
  List.take_prefix _ _

/-- The slice of a rest, counted from its own start. -/
theorem slice_drop (text : Text) (h : pos ≤ start) :
    slice (text.drop pos) (start - pos) (stop - pos) = slice text start stop := by
  have hstart : pos + (start - pos) = start := by omega
  have hlength : stop - pos - (start - pos) = stop - start := by omega
  rw [slice, slice, List.drop_drop, hstart, hlength]

theorem append_prefix_drop_iff :
    left ++ right <+: text.drop start ↔
      left <+: text.drop start ∧ right <+: text.drop (start + left.length) := by
  rw [← List.drop_drop]
  constructor
  · rintro ⟨rest, hrest⟩
    rw [← hrest]
    constructor
    · rw [List.append_assoc]
      exact List.prefix_append _ _
    · rw [List.append_assoc, List.drop_left]
      exact List.prefix_append _ _
  · rintro ⟨⟨rest, hrest⟩, hright⟩
    rw [← hrest, List.drop_left] at hright
    rw [← hrest]
    exact (List.prefix_append_right_inj left).2 hright

theorem getElem?_of_prefix_drop (h : part <+: text.drop start) (hpos : pos < part.length) :
    text[start + pos]? = part[pos]? := by
  obtain ⟨rest, hrest⟩ := h
  rw [← List.getElem?_drop, ← hrest, List.getElem?_append_left hpos]

theorem length_le_of_prefix_drop (h : part <+: text.drop start) (hne : part ≠ []) :
    start + part.length ≤ text.length := by
  have hlength := h.length_le
  have hpos := List.length_pos_iff.2 hne
  rw [List.length_drop] at hlength
  omega

/-- A part of a part of the text is a part of the text. -/
theorem prefix_drop_trans {content : Text} (hcontent : content <+: text.drop start)
    (h : part <+: content.drop pos) : part <+: text.drop (start + pos) := by
  obtain ⟨rest, hrest⟩ := hcontent
  rw [← List.drop_drop, ← hrest]
  by_cases hpos : pos ≤ content.length
  · rw [List.drop_append_of_le_length hpos]
    exact h.trans (List.prefix_append _ _)
  · rw [List.drop_eq_nil_of_le (by omega), List.prefix_nil] at h
    rw [h]
    exact List.nil_prefix

end NoteTemplate.Text
