import NoteTemplate.Text.Basic

/-!
# Cutting and joining

Cutting a text at its first separator gives the part in front, which has none.  Cutting
at every separator and joining are those of the list library, so a row of parts without
separators is read back from its join.
-/

namespace NoteTemplate.Text

variable {separator : Char} {text before after : Text} {parts : List Text}

theorem cutAt?_eq_none_iff : cutAt? separator text = none ↔ separator ∉ text := by
  induction text with
  | nil => simp [cutAt?]
  | cons c rest ih =>
    by_cases hc : c = separator
    · simp [cutAt?, hc]
    · simp [cutAt?, hc, Ne.symm hc, ih]

theorem cutAt?_append (after : Text) (h : separator ∉ before) :
    cutAt? separator (before ++ separator :: after) = some (before, after) := by
  induction before with
  | nil => simp [cutAt?]
  | cons c rest ih =>
    obtain ⟨hc, hrest⟩ := List.ne_and_not_mem_of_not_mem_cons h
    simp [cutAt?, Ne.symm hc, ih hrest]

theorem notMem_of_cutAt? (h : cutAt? separator text = some (before, after)) :
    separator ∉ before := by
  induction text generalizing before with
  | nil => simp [cutAt?] at h
  | cons c rest ih =>
    rw [cutAt?] at h
    split at h
    · obtain ⟨rfl, -⟩ := by simpa using h
      exact List.not_mem_nil
    · next hc =>
      obtain ⟨⟨front, behind⟩, hcut, hpair⟩ := Option.map_eq_some_iff.1 h
      obtain ⟨rfl, rfl⟩ := by simpa using hpair
      exact List.not_mem_cons_of_ne_of_not_mem (Ne.symm hc) (ih hcut)

theorem takeWhile_append_separator (rest : Text) (h : separator ∉ before) :
    (before ++ separator :: rest).takeWhile (· ≠ separator) = before := by
  rw [List.takeWhile_append_of_pos, List.takeWhile_cons]
  · simp
  · intro c hc
    simpa using fun heq : c = separator => h (heq ▸ hc)

theorem cutAtLast?_eq_none_iff : cutAtLast? separator text = none ↔ separator ∉ text := by
  induction text with
  | nil => simp [cutAtLast?]
  | cons c rest ih =>
    rw [cutAtLast?]
    cases hrest : cutAtLast? separator rest with
    | some cut =>
      have hmem : separator ∈ rest := by
        apply Decidable.byContradiction
        intro hnot
        rw [ih.2 hnot] at hrest
        cases hrest
      simp [hmem]
    | none =>
      have hnot := ih.1 hrest
      by_cases hc : c = separator
      · simp [hc]
      · simp [hc, Ne.symm hc, hnot]

theorem cutAtLast?_append (before : Text) (h : separator ∉ after) :
    cutAtLast? separator (before ++ separator :: after) = some (before, after) := by
  induction before with
  | nil =>
    rw [List.nil_append, cutAtLast?, cutAtLast?_eq_none_iff.2 h]
    simp
  | cons c rest ih => rw [List.cons_append, cutAtLast?, ih]

/-- A text is cut at a separator behind which there is none. -/
theorem cutAtLast?_eq_some_iff :
    cutAtLast? separator text = some (before, after) ↔
      text = before ++ separator :: after ∧ separator ∉ after := by
  constructor
  · intro h
    induction text generalizing before with
    | nil => cases h
    | cons c rest ih =>
      rw [cutAtLast?] at h
      split at h
      · next cut hcut =>
        obtain ⟨rfl, rfl⟩ := Prod.mk.inj (Option.some.inj h)
        obtain ⟨hrest, hafter⟩ := ih hcut
        exact ⟨congrArg (c :: ·) hrest, hafter⟩
      · next hnone =>
        split at h
        · next hc =>
          obtain ⟨rfl, rfl⟩ := Prod.mk.inj (Option.some.inj h)
          exact ⟨by rw [hc]; rfl, cutAtLast?_eq_none_iff.1 hnone⟩
        · cases h
  · rintro ⟨rfl, hafter⟩
    exact cutAtLast?_append before hafter

theorem mem_of_mem_splitOn {part : Text} (hpart : part ∈ splitOn separator text) :
    ∀ c ∈ part, c ∈ text ∧ c ≠ separator := by
  induction text generalizing part with
  | nil =>
    obtain rfl : part = [] := by simpa [splitOn] using hpart
    simp
  | cons first rest ih =>
    intro c hc
    rw [splitOn] at hpart
    split at hpart
    · cases List.mem_cons.1 hpart with
      | inl hempty =>
        subst hempty
        cases hc
      | inr hpart =>
        obtain ⟨hmem, hne⟩ := ih hpart c hc
        exact ⟨List.mem_cons_of_mem _ hmem, hne⟩
    · next hfirst =>
      obtain ⟨front, parts, hparts⟩ := List.exists_cons_of_ne_nil (splitOn_ne_nil separator rest)
      rw [hparts] at hpart
      have hlater {part : Text} (h : part ∈ front :: parts) (hc : c ∈ part) :
          c ∈ first :: rest ∧ c ≠ separator := by
        rw [← hparts] at h
        obtain ⟨hmem, hne⟩ := ih h c hc
        exact ⟨List.mem_cons_of_mem _ hmem, hne⟩
      cases List.mem_cons.1 hpart with
      | inl hfront =>
        subst hfront
        cases List.mem_cons.1 hc with
        | inl heq =>
          subst heq
          exact ⟨List.mem_cons_self, hfirst⟩
        | inr hc => exact hlater List.mem_cons_self hc
      | inr hpart => exact hlater (List.mem_cons_of_mem _ hpart) hc

theorem splitOn_eq : splitOn separator text = List.splitOn separator text := by
  induction text with
  | nil => rfl
  | cons c rest ih =>
    rw [splitOn, ih, List.splitOn, List.splitOn, List.splitOnP_cons_eq_if_modifyHead]
    by_cases hc : c = separator
    · simp [hc]
    · obtain ⟨part, parts, hparts⟩ :=
        List.exists_cons_of_ne_nil (List.splitOnP_ne_nil (· == separator) rest)
      simp [hc, hparts]

theorem join_eq_intercalate : join [separator] parts = [separator].intercalate parts := by
  induction parts with
  | nil => rfl
  | cons part parts ih =>
    cases parts with
    | nil => simp [join]
    | cons next parts => rw [join, ih]; simp [List.intercalate]

/-- A row of parts without separators is read back from its join. -/
theorem splitOn_join (h : ∀ part ∈ parts, separator ∉ part) (hne : parts ≠ []) :
    splitOn separator (join [separator] parts) = parts := by
  rw [splitOn_eq, join_eq_intercalate]
  exact List.splitOn_intercalate separator h hne

theorem join_append_singleton (hne : parts ≠ []) (part : Text) :
    join [separator] (parts ++ [part]) = join [separator] parts ++ separator :: part := by
  induction parts with
  | nil => exact absurd rfl hne
  | cons first parts ih =>
    cases parts with
    | nil => simp [join]
    | cons next parts =>
      rw [List.cons_append, List.cons_append, join, ← List.cons_append, ih (by simp), join]
      simp

theorem splitOn_of_notMem (h : separator ∉ text) : splitOn separator text = [text] := by
  have hsplit : splitOn separator (join [separator] [text]) = [text] :=
    splitOn_join (by simpa using h) (List.cons_ne_nil _ _)
  exact hsplit

/-- Two texts with a separator between them are cut apart from each other. -/
theorem splitOn_append (separator : Char) (before rest : Text) :
    splitOn separator (before ++ separator :: rest) =
      splitOn separator before ++ splitOn separator rest := by
  induction before with
  | nil => simp [splitOn]
  | cons c before ih =>
    obtain ⟨part, parts, hparts⟩ := List.exists_cons_of_ne_nil (splitOn_ne_nil separator before)
    rw [List.cons_append, splitOn, splitOn, ih, hparts]
    by_cases hc : c = separator
    · simp [hc]
    · simp [hc]

theorem splitOn_append_cons (h : separator ∉ before) (rest : Text) :
    splitOn separator (before ++ separator :: rest) = before :: splitOn separator rest := by
  rw [splitOn_append, splitOn_of_notMem h]
  rfl

/-- The first parts joined are the start of all parts joined. -/
theorem join_prefix_join_append (separator : Text) (front behind : List Text) :
    join separator front <+: join separator (front ++ behind) := by
  induction front with
  | nil => exact List.nil_prefix
  | cons part front ih =>
    cases front with
    | nil =>
      cases behind with
      | nil => exact List.prefix_refl _
      | cons next behind =>
        rw [List.singleton_append, join_singleton, join, List.append_assoc]
        exact List.prefix_append _ _
    | cons next front =>
      rw [List.cons_append, List.cons_append, join, join]
      exact (List.prefix_append_right_inj _).2 ih

/-- What holds in all parts holds everywhere but at the separators. -/
theorem forall_splitOn_iff {p : Char → Prop} :
    (∀ part ∈ splitOn separator text, ∀ c ∈ part, p c) ↔
      ∀ c ∈ text, c = separator ∨ p c := by
  induction text with
  | nil => simp [splitOn]
  | cons c text ih =>
    obtain ⟨part, parts, hparts⟩ := List.exists_cons_of_ne_nil (splitOn_ne_nil separator text)
    rw [List.forall_mem_cons, ← ih, splitOn]
    by_cases hc : c = separator
    · simp [hc]
    · rw [if_neg hc, hparts]
      simp [hc, and_assoc]

end NoteTemplate.Text
