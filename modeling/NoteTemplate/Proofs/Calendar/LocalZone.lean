import NoteTemplate.Calendar.Instant
import NoteTemplate.Proofs.Failing

/-!
# The second that the clocks show

Wherever the second at which the clocks show something is looked for, it is found by moving
what they show back by an offset that they have somewhere.  So it is less than a day away, and
the same second when the clocks show UTC.
-/

namespace NoteTemplate.LocalZone

variable [LocalZone] {shown found second offset : Int} {fits isLater : Bool}

/-- The second is what the clocks show, moved back by one of their offsets. -/
def IsMovedFrom (second shown : Int) : Prop := ∃ reference, second = shown - offsetAt reference

theorem shown_of_shownAt (h : shownAt second = .ok shown) : shown = second + offsetAt second := by
  rw [shownAt] at h
  split at h
  · cases h
  · split at h
    · cases h
    · exact (Except.ok.inj h).symm

theorem isMovedFrom_of_shownAt {reference : Int} (h : shownAt reference = .ok second) :
    IsMovedFrom (shown - (second - reference)) shown := by
  refine ⟨reference, ?_⟩
  rw [shown_of_shownAt h]
  omega

theorem IsMovedFrom.of_secondFrom (hfound : IsMovedFrom found shown)
    (hother : IsMovedFrom (shown - offset) shown)
    (h : secondFrom shown found offset fits isLater = .ok second) : IsMovedFrom second shown := by
  rw [secondFrom] at h
  obtain ⟨shownOther, -, h⟩ := bind_eq_ok_iff.1 h
  split at h
  · obtain rfl := Except.ok.inj h
    exact hother
  · split at h
    · obtain rfl := Except.ok.inj h
      exact hfound
    · obtain rfl := Except.ok.inj h
      split
      · rw [Int.min_def]
        split <;> assumption
      · rw [Int.max_def]
        split <;> assumption

theorem isMovedFrom_of_secondOf (h : secondOf shown isLater = .ok second) :
    IsMovedFrom second shown := by
  rw [secondOf] at h
  obtain ⟨first, hfirst, h⟩ := bind_eq_ok_iff.1 h
  dsimp only at h
  have hmoved : IsMovedFrom (shown - (first - shown)) shown := isMovedFrom_of_shownAt hfirst
  obtain ⟨shownFound, hshownFound, h⟩ := bind_eq_ok_iff.1 h
  split at h
  · generalize (if isLater = true then _ else _) = neighbour at h
    obtain ⟨near, hnear, h⟩ := bind_eq_ok_iff.1 h
    split at h
    · obtain rfl := Except.ok.inj h
      exact hmoved
    · exact hmoved.of_secondFrom (isMovedFrom_of_shownAt hnear) h
  · exact hmoved.of_secondFrom (isMovedFrom_of_shownAt hshownFound) h

/-- The second is less than a day away from what the clocks show. -/
theorem natAbs_sub_lt_of_secondOf (h : secondOf shown isLater = .ok second) :
    (shown - second).natAbs < 86400 := by
  obtain ⟨reference, rfl⟩ := isMovedFrom_of_secondOf h
  have hoffset := natAbs_offsetAt_lt reference
  omega

/-- Clocks on UTC show the second itself. -/
theorem IsUtc.eq_of_secondOf (hutc : IsUtc) (h : secondOf shown isLater = .ok second) :
    second = shown := by
  obtain ⟨reference, rfl⟩ := isMovedFrom_of_secondOf h
  rw [hutc.offsetAt_eq]
  omega

end NoteTemplate.LocalZone
