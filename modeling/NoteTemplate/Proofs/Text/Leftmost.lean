import Mathlib.Data.List.Pairwise
import Mathlib.Data.List.Perm.Subperm
import NoteTemplate.Proofs.Text.Scan

/-!
# What a scan lists

A scan lists everything that stands in the text, except what starts inside something that
it listed earlier.  This description does not mention the scan, and only one list answers
to it (`IsScan.eq`).
-/

namespace NoteTemplate

variable {α : Type} {stands : Occurrence α → Prop} {found other : Occurrence α}
  {listed left right : List (Occurrence α)}

/-- The list goes from left to right, and has everything that stands somewhere and does not
start inside something earlier that is listed. -/
structure IsScan (stands : Occurrence α → Prop) (listed : List (Occurrence α)) : Prop where
  ordered : listed.Pairwise fun left right => left.span.stop ≤ right.span.start
  mem_iff : ∀ found, found ∈ listed ↔ stands found ∧
    ∀ earlier ∈ listed, earlier.span.start < found.span.start →
      earlier.span.stop ≤ found.span.start

/-- What is recognised at its own place. -/
structure Occurrence.IsRecognised (recognise : Recogniser α) (text : Text)
    (found : Occurrence α) : Prop where
  start_lt_length : found.span.start < text.length
  start_le_stop : found.span.start ≤ found.span.stop
  recognised : recognise (text.drop found.span.start) =
    some (found.span.stop - found.span.start, found.value)

/-! ### Ordered lists -/

/-- Two members of an ordered list do not overlap. -/
theorem eq_or_apart_of_ordered
    (hordered : listed.Pairwise fun left right => left.span.stop ≤ right.span.start)
    (hfound : found ∈ listed) (hother : other ∈ listed) :
    found = other ∨ found.span.stop ≤ other.span.start ∨ other.span.stop ≤ found.span.start := by
  have hsymm : Std.Symm fun left right : Occurrence α =>
      left.span.stop ≤ right.span.start ∨ right.span.stop ≤ left.span.start :=
    ⟨fun _ _ => Or.symm⟩
  have hapart : listed.Pairwise fun left right =>
      left.span.stop ≤ right.span.start ∨ right.span.stop ≤ left.span.start :=
    hordered.imp Or.inl
  rcases eq_or_ne found other with heq | hne
  · exact Or.inl heq
  · exact Or.inr (hapart.forall hfound hother hne)

/-- A list in order of the starts is fixed by its members. -/
theorem eq_of_pairwise_start
    (hleft : left.Pairwise fun found other => found.span.start < other.span.start)
    (hright : right.Pairwise fun found other => found.span.start < other.span.start)
    (hmem : ∀ found, found ∈ left ↔ found ∈ right) : left = right := by
  have hnodup {listed : List (Occurrence α)}
      (h : listed.Pairwise fun found other => found.span.start < other.span.start) :
      listed.Nodup := h.imp fun hlt heq => by simp [heq] at hlt
  have hperm : left.Perm right :=
    (List.perm_ext_iff_of_nodup (hnodup hleft) (hnodup hright)).2 hmem
  refine List.Perm.eq_of_pairwise ?_ hleft hright hperm
  intro found other _ _ hlt hgt
  exact absurd hgt (Nat.lt_asymm hlt)

/-! ### There is one list -/

namespace IsScan

/-- Up to any place two lists agree, so what would keep an occurrence out of one of them keeps
it out of the other one as well. -/
theorem mem_of_mem (hleft : IsScan stands left) (hright : IsScan stands right)
    (h : found ∈ left) : found ∈ right := by
  induction hstart : found.span.start using Nat.strongRecOn
    generalizing found left right with
  | ind start ih =>
    have hfound := (hleft.mem_iff found).1 h
    apply (hright.mem_iff found).2
    refine ⟨hfound.1, fun earlier hearlier hlt => ?_⟩
    have hshared : earlier ∈ left := ih _ (hstart ▸ hlt) hright hleft hearlier rfl
    exact hfound.2 earlier hshared hlt

theorem pairwise_start (h : IsScan stands listed)
    (hlength : ∀ found, stands found → found.span.start < found.span.stop) :
    listed.Pairwise fun found other => found.span.start < other.span.start := by
  apply h.ordered.imp_of_mem
  intro found other hfound _ hle
  exact Nat.lt_of_lt_of_le (hlength found ((h.mem_iff found).1 hfound).1) hle

theorem eq (hleft : IsScan stands left) (hright : IsScan stands right)
    (hlength : ∀ found, stands found → found.span.start < found.span.stop) : left = right :=
  eq_of_pairwise_start (hleft.pairwise_start hlength) (hright.pairwise_start hlength)
    fun _ => ⟨hleft.mem_of_mem hright, hright.mem_of_mem hleft⟩

end IsScan

/-! ### The scan -/

variable {recognise : Recogniser α} {text : Text}

theorem isScan_occurrences
    (nonempty : ∀ text length value, recognise text = some (length, value) → 0 < length)
    (text : Text) :
    IsScan (Occurrence.IsRecognised recognise text) (occurrences recognise text) where
  ordered := pairwise_occurrences nonempty text
  mem_iff found := by
    constructor
    · intro h
      have hfound := recognise_of_mem_occurrences h
      refine ⟨⟨hfound.1, hfound.2.1, hfound.2.2⟩, fun earlier hearlier hlt => ?_⟩
      rcases eq_or_apart_of_ordered (pairwise_occurrences nonempty text) hearlier h with
        rfl | hle | hle
      · exact absurd hlt (Nat.lt_irrefl _)
      · exact hle
      · exact absurd (Nat.le_trans hfound.2.1 hle) (Nat.not_le.2 hlt)
    · intro ⟨hstands, hfree⟩
      have hmem := mem_occurrences hstands.start_lt_length hstands.recognised hfree
      rwa [Nat.add_sub_cancel' hstands.start_le_stop] at hmem

end NoteTemplate
