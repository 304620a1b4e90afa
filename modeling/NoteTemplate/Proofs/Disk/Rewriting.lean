import NoteTemplate.Proofs.Disk.NewFolder

/-!
# A file that is written again

A file that stands on the disk gets another content.  Every path leads where it led before, and
it meets the new content only at the place of the file.  Files at different places are written in
any order.
-/

namespace NoteTemplate

/-- Where a path leads when the file at a place has another content. -/
def Location.rewrite (spot : List Text) (content : FileContent) : Location → Location
  | .found place (.file old) => .found place (.file (if place = spot then content else old))
  | location => location

namespace DiskTree

variable {tree : DiskTree} {spot place here : List Text} {parts : List Text} {node : DiskNode}
  {old content : FileContent} {path : DiskPath}

theorem ne_nil_of_file (h : tree.get? spot = some (.file old)) : spot ≠ [] := by
  rintro rfl
  cases h

theorem locateFrom_file (content : FileContent) (place parts : List Text) :
    tree.locateFrom place (.file content) parts =
      if parts = [] then .ok (.found place (.file content)) else .error .notFolder := by
  cases parts <;> rfl

/-- Every path leads where it led before. -/
theorem locateFrom_rewrite (h : tree.get? spot = some (.file old)) (place parts : List Text) :
    (tree.set spot (.file content)).locateFrom place .folder parts =
      (tree.locateFrom place .folder parts).map (Location.rewrite spot content) := by
  induction parts generalizing place with
  | nil => rfl
  | cons part parts ih =>
    rw [locateFrom_cons, locateFrom_cons]
    generalize DiskPath.follow place [part] = next
    by_cases hnext : next = spot
    · rw [hnext, get?_set_of_ne_nil (ne_nil_of_file h), h]
      dsimp only
      rw [locateFrom_file, locateFrom_file]
      split
      · simp [Except.map, Location.rewrite]
      · rfl
    · rw [get?_set_of_ne tree hnext]
      cases tree.get? next with
      | none =>
        rw [missing, missing, takesPlace_set]
        cases tree.takesPlace next <;> cases parts.isEmpty <;> rfl
      | some stands =>
        cases stands with
        | folder => exact ih next
        | file stored =>
          dsimp only
          rw [locateFrom_file, locateFrom_file]
          split
          · simp [Except.map, Location.rewrite, hnext]
          · rfl

theorem locate_rewrite (h : tree.get? spot = some (.file old)) (here : List Text)
    (path : DiskPath) :
    (tree.set spot (.file content)).locate here path =
      (tree.locate here path).map (Location.rewrite spot content) := by
  rw [locate, locate, locateFrom_rewrite h, takesPath_set]
  split <;> rfl

theorem node?_isSome_rewrite (h : tree.get? spot = some (.file old)) (here : List Text)
    (path : DiskPath) :
    ((tree.set spot (.file content)).node? here path).isSome =
      (tree.node? here path).isSome := by
  rw [node?_eq, node?_eq, locate_rewrite h]
  split
  · rfl
  · cases tree.locate here path with
    | error error => rfl
    | ok location =>
      cases location with
      | vacant vacant => rfl
      | found place node => cases node <;> rfl

theorem isTooLong_rewrite_iff (h : tree.get? spot = some (.file old)) (here : List Text)
    (path : DiskPath) :
    (tree.set spot (.file content)).IsTooLong here path ↔ tree.IsTooLong here path := by
  rw [IsTooLong, IsTooLong, locate_rewrite h]
  refine and_congr_right fun _ => ?_
  cases tree.locate here path <;> simp [Except.map]

/-! ### Two files -/

theorem setEntry_comm {nodes : List (List Text × DiskNode)} {left right : List Text}
    {first second : DiskNode} (hne : left ≠ right) (hleft : lookup left nodes ≠ none)
    (hright : lookup right nodes ≠ none) :
    setEntry left first (setEntry right second nodes) =
      setEntry right second (setEntry left first nodes) := by
  induction nodes with
  | nil => exact absurd rfl hleft
  | cons entry nodes ih =>
    obtain ⟨place, node⟩ := entry
    by_cases hl : place = left
    · by_cases hr : place = right
      · exact absurd (hl.symm.trans hr) hne
      · simp [setEntry, hl, hne]
    · by_cases hr : place = right
      · simp [setEntry, hr, Ne.symm hne]
      · have hrest := ih (by simpa [lookup, hl] using hleft) (by simpa [lookup, hr] using hright)
        simp [setEntry, hl, hr, hrest]

/-- Files that stand at different places are written in any order. -/
theorem set_comm {left right : List Text} {first second : DiskNode} (hne : left ≠ right)
    (hleft : ∃ file, tree.get? left = some (.file file))
    (hright : ∃ file, tree.get? right = some (.file file)) :
    (tree.set left first).set right second = (tree.set right second).set left first := by
  have hstands {place : List Text} (h : ∃ file, tree.get? place = some (.file file)) :
      lookup place tree.nodes ≠ none := by
    obtain ⟨file, hfile⟩ := h
    have hplace : place.isEmpty = false := List.isEmpty_eq_false_iff.2 (ne_nil_of_file hfile)
    rw [get?, hplace] at hfile
    rintro hnone
    exact absurd (hnone.symm.trans hfile) (by simp)
  rw [set, set, set, set, setEntry_comm (Ne.symm hne) (hstands hright) (hstands hleft)]

end DiskTree

end NoteTemplate
