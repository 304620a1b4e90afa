import NoteTemplate.Text.Basic

/-!
# Values under names

A table keeps values under names, in the order in which the names came.  Setting a
name that is there changes its value and leaves it in its place.
-/

namespace NoteTemplate

/-- Values under names, in order. -/
abbrev Keyed (α : Type) := List (Text × α)

namespace Keyed

variable {α : Type}

/-- The value under a name. -/
def get? (name : Text) : Keyed α → Option α
  | [] => none
  | entry :: entries => if entry.1 = name then some entry.2 else get? name entries

/-- Put a value under a name. -/
def set (name : Text) (value : α) : Keyed α → Keyed α
  | [] => [(name, value)]
  | entry :: entries =>
    if entry.1 = name then (name, value) :: entries else entry :: set name value entries

@[simp]
theorem get?_set_self (name : Text) (value : α) (table : Keyed α) :
    get? name (set name value table) = some value := by
  induction table with
  | nil => simp [set, get?]
  | cons entry entries ih => by_cases h : entry.1 = name <;> simp [set, get?, h, ih]

theorem get?_set_of_ne {name other : Text} (hne : other ≠ name) (value : α) (table : Keyed α) :
    get? other (set name value table) = get? other table := by
  induction table with
  | nil => simp [set, get?, Ne.symm hne]
  | cons entry entries ih =>
    by_cases h : entry.1 = name
    · subst h; simp [set, get?, Ne.symm hne]
    · simp [set, get?, h, ih]

end Keyed

end NoteTemplate
