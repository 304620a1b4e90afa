import NoteTemplate.Text.Occurrence

/-!
# Scanning a text

Facts about the scan that finds occurrences from left to right.
-/

namespace NoteTemplate

variable {α : Type} {recognise : Recogniser α} {text : Text} {value : α}

theorem occurrencesFrom_eq_nil {skip : Nat} (pos : Nat) (h : text.length ≤ skip) :
    occurrencesFrom recognise pos skip text = [] := by
  induction text generalizing pos skip with
  | nil => simp [occurrencesFrom]
  | cons c rest ih =>
    cases skip with
    | zero => simp at h
    | succ skip => exact ih _ (by simpa using h)

/-- A text that is recognised as a whole is its only occurrence. -/
theorem occurrences_of_whole (hne : text ≠ [])
    (h : recognise text = some (text.length, value)) :
    occurrences recognise text = [⟨⟨0, text.length⟩, value⟩] := by
  cases text with
  | nil => exact absurd rfl hne
  | cons c rest =>
    simp only [occurrences, occurrencesFrom, h]
    rw [occurrencesFrom_eq_nil _ (by simp), Nat.zero_add]

variable {found : Occurrence α} {offset length : Nat}

/-- What was found is recognised in its place. -/
theorem recognise_of_mem_occurrencesFrom {pos skip : Nat}
    (h : found ∈ occurrencesFrom recognise pos skip text) :
    ∃ offset length, offset < text.length ∧ found.span = ⟨pos + offset, pos + offset + length⟩ ∧
      recognise (text.drop offset) = some (length, found.value) := by
  induction text generalizing pos skip with
  | nil => simp [occurrencesFrom] at h
  | cons c rest ih =>
    have hlater {skip : Nat} (h : found ∈ occurrencesFrom recognise (pos + 1) skip rest) :
        ∃ offset length, offset < (c :: rest).length ∧
          found.span = ⟨pos + offset, pos + offset + length⟩ ∧
          recognise ((c :: rest).drop offset) = some (length, found.value) := by
      obtain ⟨offset, length, hoffset, hspan, hfound⟩ := ih h
      refine ⟨offset + 1, length, ?_, ?_, hfound⟩
      · rw [List.length_cons]
        omega
      · rw [hspan]
        congr 1 <;> omega
    cases skip with
    | succ skip => exact hlater h
    | zero =>
      rw [occurrencesFrom] at h
      split at h
      · next length value hvalue =>
        rcases List.mem_cons.1 h with rfl | h
        · exact ⟨0, length, by simp, rfl, hvalue⟩
        · exact hlater h
      · exact hlater h

theorem recognise_of_mem_occurrences (h : found ∈ occurrences recognise text) :
    found.span.start < text.length ∧ found.span.start ≤ found.span.stop ∧
      recognise (text.drop found.span.start) =
        some (found.span.stop - found.span.start, found.value) := by
  obtain ⟨offset, length, hoffset, hspan, hfound⟩ := recognise_of_mem_occurrencesFrom h
  rw [Nat.zero_add] at hspan
  rw [hspan]
  dsimp only
  have hlength : offset + length - offset = length := by omega
  exact ⟨hoffset, by omega, by rw [hlength]; exact hfound⟩

/-- Where nothing is found, nothing is recognised. -/
theorem recognise_of_occurrences_eq_nil (h : occurrences recognise text = [])
    (hoffset : offset < text.length) : recognise (text.drop offset) = none := by
  have hfrom (pos : Nat) (text : Text) (offset : Nat)
      (h : occurrencesFrom recognise pos 0 text = []) (hoffset : offset < text.length) :
      recognise (text.drop offset) = none := by
    induction text generalizing pos offset with
    | nil => simp at hoffset
    | cons c rest ih =>
      rw [occurrencesFrom] at h
      split at h
      · simp at h
      · next hnone =>
        cases offset with
        | zero => exact hnone
        | succ offset =>
          rw [List.length_cons] at hoffset
          exact ih _ _ h (by omega)
  exact hfrom 0 text offset h hoffset

/-- What is recognised at a place that no other occurrence reaches over is found. -/
theorem mem_occurrencesFrom {pos skip : Nat} (hskip : skip ≤ offset)
    (hoffset : offset < text.length)
    (hvalue : recognise (text.drop offset) = some (length, value))
    (hfree : ∀ found ∈ occurrencesFrom recognise pos skip text,
      found.span.start < pos + offset → found.span.stop ≤ pos + offset) :
    ⟨⟨pos + offset, pos + offset + length⟩, value⟩ ∈ occurrencesFrom recognise pos skip text := by
  induction text generalizing pos skip offset with
  | nil => simp at hoffset
  | cons c rest ih =>
    rw [List.length_cons] at hoffset
    cases offset with
    | zero =>
      obtain rfl : skip = 0 := by omega
      rw [List.drop_zero] at hvalue
      rw [occurrencesFrom, hvalue]
      exact List.mem_cons_self
    | succ offset =>
      have hpos : pos + (offset + 1) = pos + 1 + offset := by omega
      rw [List.drop_succ_cons] at hvalue
      have hlater {skip : Nat} (hskip : skip ≤ offset)
          (hfree : ∀ found ∈ occurrencesFrom recognise (pos + 1) skip rest,
            found.span.start < pos + 1 + offset → found.span.stop ≤ pos + 1 + offset) :=
        ih hskip (by omega) hvalue hfree
      rw [hpos] at hfree ⊢
      cases skip with
      | succ skip => exact hlater (by omega) hfree
      | zero =>
        rw [occurrencesFrom] at hfree ⊢
        split at hfree
        · next taken other hother =>
          have hreach := hfree _ List.mem_cons_self (by dsimp only; omega)
          apply List.mem_cons_of_mem
          apply hlater
          · dsimp only at hreach
            omega
          · intro found hfound
            exact hfree found (List.mem_cons_of_mem _ hfound)
        · exact hlater (Nat.zero_le _) hfree

theorem mem_occurrences (hoffset : offset < text.length)
    (hvalue : recognise (text.drop offset) = some (length, value))
    (hfree : ∀ found ∈ occurrences recognise text,
      found.span.start < offset → found.span.stop ≤ offset) :
    ⟨⟨offset, offset + length⟩, value⟩ ∈ occurrences recognise text := by
  have hmem := mem_occurrencesFrom (Nat.zero_le offset) hoffset hvalue (by
    rw [Nat.zero_add]
    exact hfree)
  rwa [Nat.zero_add] at hmem

/-- Characters to be skipped are in no occurrence. -/
theorem occurrencesFrom_skip (recognise : Recogniser α) (pos skip : Nat) (text : Text) :
    occurrencesFrom recognise pos skip text =
      occurrencesFrom recognise (pos + skip) 0 (text.drop skip) := by
  induction text generalizing pos skip with
  | nil => cases skip <;> rfl
  | cons c rest ih =>
    cases skip with
    | zero => rfl
    | succ skip =>
      rw [occurrencesFrom, ih, List.drop_succ_cons]
      congr 1
      omega

/-- What starts in the first half of a text does not depend on the second half, where what is
recognised does not. -/
theorem mem_occurrencesFrom_append {left right other : Text}
    (hsame : ∀ part, part ≠ [] → part <:+ left →
      recognise (part ++ right) = recognise (part ++ other))
    {pos skip : Nat} (hstart : found.span.start < pos + left.length)
    (h : found ∈ occurrencesFrom recognise pos skip (left ++ right)) :
    found ∈ occurrencesFrom recognise pos skip (left ++ other) := by
  induction left generalizing pos skip with
  | nil =>
    have hle := le_start_of_mem_occurrencesFrom h
    rw [List.length_nil] at hstart
    omega
  | cons c left ih =>
    have hlater {skip : Nat}
        (h : found ∈ occurrencesFrom recognise (pos + 1) skip (left ++ right)) :
        found ∈ occurrencesFrom recognise (pos + 1) skip (left ++ other) := by
      apply ih _ _ h
      · exact fun part hne hsuffix => hsame part hne (hsuffix.trans (List.suffix_cons c left))
      · rw [List.length_cons] at hstart
        omega
    cases skip with
    | succ skip => exact hlater h
    | zero =>
      have hhead : recognise (c :: (left ++ right)) = recognise (c :: (left ++ other)) :=
        hsame (c :: left) (List.cons_ne_nil c left) List.suffix_rfl
      rw [List.cons_append, occurrencesFrom] at h ⊢
      rw [← hhead]
      split at h
      · next length value hvalue =>
        rw [hvalue]
        rcases List.mem_cons.1 h with rfl | h
        · exact List.mem_cons_self
        · exact List.mem_cons_of_mem _ (hlater h)
      · next hnone =>
        rw [hnone]
        exact hlater h

end NoteTemplate
