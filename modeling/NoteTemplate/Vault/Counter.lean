import NoteTemplate.Counter.Pattern
import NoteTemplate.Disk.Session
import NoteTemplate.Vault.Notes

/-!
# The next number of a note

The numbers in use are read back from the names of the notes that are directly in a
folder.  The next number is one more than the greatest of them, so gaps are never
filled, and an empty folder starts at the first number of the template.
-/

namespace NoteTemplate

/-- The number in the name of an entry, if the entry is a note of the pattern. -/
def CounterPattern.counterOf? (found : CounterPattern) (entry : VaultEntry) : Option Nat :=
  if !entry.isFolder && entry.extension = noteExtension then
    found.pattern.counterIn? entry.basename
  else none

/-- One more than the greatest of the numbers, or `start` if there are none. -/
def nextNumber (start : Int) : List Nat → Int
  | [] => start
  | number :: numbers => (numbers.foldl max number : Nat) + 1

namespace Vault

variable [Styling]

/-- The numbers of the notes in a folder whose names fit a title pattern. -/
def counterValues (vault : Vault) (settings : DateTimeSettings) (pattern folder : Text) :
    Action (List Nat) := do
  match ← Action.ofExcept (counterPattern? settings pattern) with
  | none => return []
  | some found =>
    if (← vault.contains folder) && (← vault.hasFolder folder) then
      return (← vault.children folder).filterMap found.counterOf?
    else
      Action.notice (styled "dim" ("Folder not found, no existing counters: ".toList
        ++ Styling.escape folder))
      return []

/-- The number of the next note of a title pattern in a folder. -/
def nextCounter (vault : Vault) (settings : DateTimeSettings) (start : Int)
    (pattern folder : Text) : Action Int := do
  if hasCounter pattern then return nextNumber start (← vault.counterValues settings pattern folder)
  else return start

end Vault

/-- The next number is greater than every number in use. -/
theorem lt_nextNumber {start : Int} {numbers : List Nat} {number : Nat}
    (h : number ∈ numbers) : (number : Int) < nextNumber start numbers := by
  have le_foldl (items : List Nat) (first : Nat) :
      first ≤ items.foldl max first ∧ ∀ item ∈ items, item ≤ items.foldl max first := by
    induction items generalizing first with
    | nil => simp
    | cons item items ih =>
      obtain ⟨hfirst, hrest⟩ := ih (max first item)
      refine ⟨Nat.le_trans (Nat.le_max_left _ _) hfirst, fun other hother => ?_⟩
      rcases List.mem_cons.1 hother with rfl | hother
      · exact Nat.le_trans (Nat.le_max_right _ _) hfirst
      · exact hrest other hother
  cases numbers with
  | nil => simp at h
  | cons first rest =>
    obtain ⟨hfirst, hrest⟩ := le_foldl rest first
    simp only [nextNumber]
    rcases List.mem_cons.1 h with rfl | h
    · omega
    · have := hrest number h; omega

end NoteTemplate
