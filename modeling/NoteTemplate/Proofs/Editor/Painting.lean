import NoteTemplate.Editor.Highlight
import NoteTemplate.Proofs.Format.Placing
import NoteTemplate.Proofs.Prompt.Places

/-!
# Painting a stretch of a text

Highlights paint a stretch when they lie inside it, share no place, and leave only blanks
uncovered.  Paintings of neighbouring stretches are put together, in any order of the
highlights, so the highlights of a content are a painting because those of its parts are.
-/

namespace NoteTemplate

variable {text content : Text} {start middle stop offset pos : Nat} {kind : HighlightKind}
  {left right spots : List Highlight}

/-- The stretch covers the place. -/
def Span.covers (span : Span Nat) (pos : Nat) : Bool :=
  decide (span.start ≤ pos) && decide (pos < span.stop)

theorem Span.covers_iff {span : Span Nat} :
    span.covers pos = true ↔ span.start ≤ pos ∧ pos < span.stop := by
  rw [covers, Bool.and_eq_true, decide_eq_true_eq, decide_eq_true_eq]

/-- No place belongs to both highlights. -/
def Highlight.Apart (left right : Highlight) : Prop :=
  left.span.stop ≤ right.span.start ∨ right.span.stop ≤ left.span.start

/-- The highlights lie inside the stretch, none is empty, no two share a place, and every
character that is not blank is covered. -/
structure Paints (text : Text) (start stop : Nat) (spots : List Highlight) : Prop where
  start_le_stop : start ≤ stop
  inside : ∀ spot ∈ spots,
    start ≤ spot.span.start ∧ spot.span.start < spot.span.stop ∧ spot.span.stop ≤ stop
  apart : spots.Pairwise Highlight.Apart
  covered : ∀ pos c, start ≤ pos → pos < stop → text[pos]? = some c → isBlank c = false →
    ∃ spot ∈ spots, spot.span.covers pos = true

/-! ### Putting paintings together -/

theorem IsBlankIn.paints_nil (h : IsBlankIn text start stop) (hle : start ≤ stop) :
    Paints text start stop [] where
  start_le_stop := hle
  inside _ hspot := absurd hspot List.not_mem_nil
  apart := List.Pairwise.nil
  covered pos c hstart hstop hchar hc := by
    rw [h pos c hstart hstop hchar] at hc
    cases hc

theorem paints_singleton (text : Text) (kind : HighlightKind) (hlt : start < stop) :
    Paints text start stop [⟨⟨start, stop⟩, kind⟩] where
  start_le_stop := Nat.le_of_lt hlt
  inside spot hspot := by
    rw [List.mem_singleton.1 hspot]
    exact ⟨Nat.le_refl _, hlt, Nat.le_refl _⟩
  apart := List.pairwise_singleton _ _
  covered pos c hstart hstop _ _ :=
    ⟨_, List.mem_singleton_self _, Span.covers_iff.2 ⟨hstart, hstop⟩⟩

theorem paints_char (text : Text) (kind : HighlightKind) (pos : Nat) :
    Paints text pos (pos + 1) [.char kind pos] :=
  paints_singleton text kind (Nat.lt_succ_self pos)

namespace Paints

theorem append (hleft : Paints text start middle left) (hright : Paints text middle stop right) :
    Paints text start stop (left ++ right) where
  start_le_stop := Nat.le_trans hleft.start_le_stop hright.start_le_stop
  inside spot hspot := by
    rcases List.mem_append.1 hspot with hspot | hspot
    · obtain ⟨hstart, hlt, hstop⟩ := hleft.inside spot hspot
      exact ⟨hstart, hlt, Nat.le_trans hstop hright.start_le_stop⟩
    · obtain ⟨hstart, hlt, hstop⟩ := hright.inside spot hspot
      exact ⟨Nat.le_trans hleft.start_le_stop hstart, hlt, hstop⟩
  apart := by
    refine List.pairwise_append.2 ⟨hleft.apart, hright.apart, fun spot hspot other hother => ?_⟩
    exact Or.inl (Nat.le_trans (hleft.inside spot hspot).2.2 (hright.inside other hother).1)
  covered pos c hstart hstop hchar hc := by
    rcases Nat.lt_or_ge pos middle with hlt | hge
    · obtain ⟨spot, hspot, hcovers⟩ := hleft.covered pos c hstart hlt hchar hc
      exact ⟨spot, List.mem_append_left _ hspot, hcovers⟩
    · obtain ⟨spot, hspot, hcovers⟩ := hright.covered pos c hge hstop hchar hc
      exact ⟨spot, List.mem_append_right _ hspot, hcovers⟩

theorem perm (h : Paints text start stop left) (hperm : left.Perm right) :
    Paints text start stop right where
  start_le_stop := h.start_le_stop
  inside spot hspot := h.inside spot (hperm.mem_iff.2 hspot)
  apart := hperm.pairwise h.apart fun hapart => Or.symm hapart
  covered pos c hstart hstop hchar hc := by
    obtain ⟨spot, hspot, hcovers⟩ := h.covered pos c hstart hstop hchar hc
    exact ⟨spot, hperm.mem_iff.1 hspot, hcovers⟩

/-- A painting of a part of the text, moved to the place of the part. -/
theorem map_shift (h : Paints content start stop spots) (hcontent : content <+: text.drop offset)
    (hstop : stop ≤ content.length) :
    Paints text (start + offset) (stop + offset) (spots.map (Highlight.shift offset)) where
  start_le_stop := Nat.add_le_add_right h.start_le_stop offset
  inside := by
    rw [List.forall_mem_map]
    intro spot hspot
    obtain ⟨hle, hlt, hge⟩ := h.inside spot hspot
    exact ⟨Nat.add_le_add_right hle offset, Nat.add_lt_add_right hlt offset,
      Nat.add_le_add_right hge offset⟩
  apart := by
    apply List.pairwise_map.2
    apply h.apart.imp
    intro spot other hapart
    exact hapart.imp (fun hle => Nat.add_le_add_right hle offset)
      (fun hle => Nat.add_le_add_right hle offset)
  covered pos c hfirst hlast hchar hc := by
    obtain ⟨place, rfl⟩ := Nat.exists_eq_add_of_le' (Nat.le_trans (Nat.le_add_left _ _) hfirst)
    have hplace : place < stop := Nat.lt_of_add_lt_add_right hlast
    have hcontentChar : content[place]? = some c := by
      rw [← Text.getElem?_of_prefix_drop hcontent (Nat.lt_of_lt_of_le hplace hstop),
        Nat.add_comm, hchar]
    obtain ⟨spot, hspot, hcovers⟩ :=
      h.covered place c (Nat.le_of_add_le_add_right hfirst) hplace hcontentChar hc
    obtain ⟨hle, hlt⟩ := Span.covers_iff.1 hcovers
    exact ⟨spot.shift offset, List.mem_map_of_mem hspot,
      Span.covers_iff.2 ⟨Nat.add_le_add_right hle offset, Nat.add_lt_add_right hlt offset⟩⟩

/-- A place that is not blank is covered once. -/
theorem countP_covers (h : Paints text start stop spots) {c : Char} (hstart : start ≤ pos)
    (hstop : pos < stop) (hchar : text[pos]? = some c) (hc : isBlank c = false) :
    spots.countP (fun spot => spot.span.covers pos) = 1 := by
  obtain ⟨spot, hspot, hcovers⟩ := h.covered pos c hstart hstop hchar hc
  obtain ⟨front, behind, rfl⟩ := List.append_of_mem hspot
  obtain ⟨-, hlast, hfront⟩ := List.pairwise_append.1 h.apart
  have halone {other : Highlight} (hapart : other.Apart spot ∨ spot.Apart other) :
      ¬other.span.covers pos = true := by
    intro hother
    obtain ⟨hle, hlt⟩ := Span.covers_iff.1 hcovers
    obtain ⟨hotherLe, hotherLt⟩ := Span.covers_iff.1 hother
    simp only [Highlight.Apart] at hapart
    omega
  have hfrontZero : front.countP (fun spot => spot.span.covers pos) = 0 :=
    List.countP_eq_zero.2 fun other hother =>
      halone (Or.inl (hfront other hother spot List.mem_cons_self))
  have hbehindZero : behind.countP (fun spot => spot.span.covers pos) = 0 :=
    List.countP_eq_zero.2 fun other hother =>
      halone (Or.inr ((List.pairwise_cons.1 hlast).1 other hother))
  have hcons : (spot :: behind).countP (fun spot => spot.span.covers pos) =
      behind.countP (fun spot => spot.span.covers pos) + 1 := List.countP_cons_of_pos hcovers
  rw [List.countP_append, hcons, hfrontZero, hbehindZero]

end Paints

/-! ### Painting parts -/

/-- Stretches without a gap between them are a painting. -/
theorem AreAdjoined.paints (text : Text) (h : AreAdjoined start (spots.map Highlight.span) stop) :
    Paints text start stop spots := by
  induction spots generalizing start with
  | nil =>
    cases h with
    | nil => exact (isBlankIn_self text _).paints_nil (Nat.le_refl _)
  | cons spot spots ih =>
    obtain ⟨⟨first, last⟩, kind⟩ := spot
    cases h with
    | cons hlt hrest => exact (paints_singleton text kind hlt).append (ih hrest)

namespace Segment

variable {segment : Segment}

theorem paints (text : Text) (kind : HighlightKind) (segment : Segment) :
    Paints text segment.start segment.stop (Highlight.segment kind segment) := by
  rw [Highlight.segment]
  split
  · next hempty =>
    have hstop : segment.stop = segment.start := by
      rw [Segment.stop, List.isEmpty_iff.1 hempty]
      rfl
    rw [hstop]
    exact (isBlankIn_self text _).paints_nil (Nat.le_refl _)
  · next hfilled =>
    have hpos : 0 < segment.text.length := by
      apply List.length_pos_iff.2
      simpa using hfilled
    exact paints_singleton text kind (Nat.lt_add_of_pos_right hpos)

/-- The blanks around a segment need no paint. -/
theorem Trims.paints_of (h : segment.Trims text start stop)
    (hspots : Paints text segment.start segment.stop spots) : Paints text start stop spots := by
  have hfront := h.blank_front.paints_nil h.start_le
  have hbehind := h.blank_behind.paints_nil h.stop_le
  simpa using (hfront.append hspots).append hbehind

theorem Trims.paints (h : segment.Trims text start stop) (kind : HighlightKind) :
    Paints text start stop (Highlight.segment kind segment) :=
  h.paints_of (segment.paints text kind)

end Segment

/-- The options and the commas between them paint the detail. -/
theorem CommaSplit.Splits.paints {split : CommaSplit} (h : split.Splits text start stop)
    (kind : HighlightKind) :
    Paints text start stop
      (split.items.flatMap (Highlight.segment kind) ++ split.commas.map (.char .comma)) := by
  have hfirst (item : Segment) :
      ([item].filter fun item => !item.text.isEmpty).flatMap (Highlight.segment kind) =
        Highlight.segment kind item := by
    by_cases hempty : item.text.isEmpty <;> simp [Highlight.segment, hempty]
  induction h with
  | last hitem => simpa [hfirst] using hitem.paints kind
  | @comma _ comma _ item later hitem hcomma hlater ih =>
    have hpaints := (hitem.paints kind).append ((paints_char text .comma comma).append ih)
    apply hpaints.perm
    rw [List.flatMap_append, hfirst, List.map_cons, List.append_assoc, ← List.singleton_append]
    exact (List.perm_append_comm_assoc _ _ _).append_left _

namespace Detail

variable {detail : Segment} {reading : Detail}

theorem Splits.paints (h : reading.Splits text detail) (valueType : Option ValueType) :
    Paints text detail.start detail.stop (reading.highlights valueType detail) := by
  cases h with
  | whole => exact detail.paints text .format
  | items hsplit => exact hsplit.paints _
  | @custom format htext =>
    have hstop : detail.stop = detail.start + formatOpening.length + format.length + 1 := by
      rw [Segment.stop, htext, List.length_append, List.length_append, List.length_singleton]
      omega
    have hopening : detail.start < detail.start + formatOpening.length :=
      Nat.lt_add_of_pos_right (by decide)
    rw [hstop, highlights, ← List.singleton_append]
    refine ((paints_singleton text .format hopening).append ?_).append (paints_char text .format _)
    apply AreAdjoined.paints
    rw [List.map_map]
    have hadjoined := areAdjoined_formatParts format (detail.start + formatOpening.length)
    rwa [List.map_map] at hadjoined

end Detail

/-! ### Painting a content -/

namespace PromptContent

variable {split : PromptContent} {name type detail : Segment} {colon secondColon : Nat}

theorem highlights_named (name : Segment) :
    (named name).highlights = Highlight.segment .name name := by
  simp [highlights, PromptContent.name, colons, type?, detail?]

theorem highlights_typed :
    (typed name colon type).highlights =
      Highlight.segment .name name ++ .char .colon colon :: Highlight.segment .type type := by
  simp [highlights, PromptContent.name, colons, type?, detail?]

theorem highlights_detailed :
    (detailed name colon type secondColon detail).highlights =
      Highlight.segment .name name ++ .char .colon colon :: .char .colon secondColon ::
        (Highlight.segment .type type ++
          (Detail.ofSegment (ValueType.resolve? type.text) detail).highlights
            (ValueType.resolve? type.text) detail) := by
  simp [highlights, PromptContent.name, colons, type?, detail?, reading?, valueType?]

/-- The highlights of a content paint it from its first character to its last one. -/
theorem Splits.paints (h : split.Splits text) : Paints text 0 text.length split.highlights := by
  cases h with
  | named hname =>
    rw [highlights_named]
    exact hname.paints .name
  | @typed name type colon hname hcolon htype =>
    rw [highlights_typed]
    exact (hname.paints .name).append ((paints_char text .colon colon).append (htype.paints .type))
  | @detailed name type detail colon secondColon hname hcolon htype hsecond hdetail =>
    have hreading := Detail.splits_ofSegment (ValueType.resolve? type.text) hdetail.isAt
    have hfront := (paints_char text .colon colon).append (htype.paints .type)
    have hbehind := (paints_char text .colon secondColon).append
      (hdetail.paints_of (hreading.paints (ValueType.resolve? type.text)))
    apply ((hname.paints .name).append (hfront.append hbehind)).perm
    rw [highlights_detailed]
    -- The second colon is listed with the first one, in front of the type.
    apply List.Perm.append_left
    apply List.Perm.cons
    exact List.perm_middle

end PromptContent

end NoteTemplate
