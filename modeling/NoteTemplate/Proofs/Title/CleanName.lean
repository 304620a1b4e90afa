import NoteTemplate.Proofs.Title.Tidy

/-!
# Clean file names

Which names are clean is said here by their characters alone, without the steps that clean a
title.  Cleaning gives a clean name, whatever the title is, and it changes exactly the titles
that are not clean already (`cleanFilename_projects`).  The steps come one after the other, so
the point is that none of them undoes what an earlier one did.
-/

namespace NoteTemplate

variable {name text : Text} {c : Char}

/-- The characters that systems keep for themselves. -/
def reservedCharacters : List Char := ['*', '"', '\\', '/', '<', '>', '?', ':', '|']

/-- The name is valid on every common system, and nobody has to guess the spaces in it. -/
structure IsCleanName (name : Text) : Prop where
  not_reserved : ∀ c ∈ name, c ∉ reservedCharacters
  not_control : ∀ c ∈ name, 0x20 ≤ c.toNat ∧ c.toNat ≠ 0x7f
  /-- A space is the only kind of blank. -/
  space_of_isBlank : ∀ c ∈ name, isBlank c = true → c = ' '
  single_spaces : ¬ [' ', ' '] <:+: name
  head : ∀ c ∈ name.head?, c ≠ ' ' ∧ c ≠ '.'
  last : ∀ c ∈ name.getLast?, c ≠ ' ' ∧ c ≠ '.'

/-! ### Characters -/

theorem isForbiddenInFilename_eq_false_iff :
    isForbiddenInFilename c = false ∧ c ≠ ':' ∧ c ≠ '|' ↔ c ∉ reservedCharacters := by
  simp only [isForbiddenInFilename, reservedCharacters, List.mem_cons, List.not_mem_nil,
    Bool.or_eq_false_iff, decide_eq_false_iff_not]
  tauto

theorem isControl_eq_false_iff : isControl c = false ↔ 0x20 ≤ c.toNat ∧ c.toNat ≠ 0x7f := by
  simp [isControl]

theorem isFilenameEdge_eq_false_iff : isFilenameEdge c = false ↔ c ≠ ' ' ∧ c ≠ '.' := by
  simp [isFilenameEdge]

/-- Cleaning keeps a character that is neither reserved nor a control character. -/
theorem cleanChar?_eq_self_iff :
    cleanChar? c = some c ↔ c ∉ reservedCharacters ∧ 0x20 ≤ c.toNat ∧ c.toNat ≠ 0x7f := by
  rw [← isForbiddenInFilename_eq_false_iff, ← isControl_eq_false_iff]
  unfold cleanChar?
  split
  · next hcolon => simp [hcolon]
  · next hcolon =>
    split
    · next hbar => simp [hbar]
    · next hbar => simp [hcolon, hbar]

theorem cleanCharacters_eq_self_iff :
    cleanCharacters text = text ↔ ∀ c ∈ text, cleanChar? c = some c := by
  refine ⟨fun h c hc => ?_, cleanCharacters_eq_self⟩
  rw [← h] at hc
  exact cleanChar?_of_mem_cleanCharacters hc

/-! ### Blanks -/

/-- Two spaces stand in a text at its start or behind its first character. -/
theorem spaces_infix_cons_iff :
    [' ', ' '] <:+: c :: text ↔ (c = ' ' ∧ text.head? = some ' ') ∨ [' ', ' '] <:+: text := by
  rw [List.infix_cons_iff, List.cons_prefix_cons, eq_comm]
  refine or_congr_left (and_congr_right fun _ => ?_)
  cases text with
  | nil => simp
  | cons d rest => simp [List.cons_prefix_cons, eq_comm]

/-- A text without other blanks than single spaces is not changed.  Behind a space that was just
written it does not start with one. -/
theorem collapseBlanksFrom_eq_self_iff {inRun : Bool} :
    collapseBlanksFrom inRun text = text ↔
      (∀ c ∈ text, isBlank c = true → c = ' ') ∧ ¬ [' ', ' '] <:+: text ∧
        (inRun = true → ∀ c ∈ text.head?, isBlank c = false) := by
  induction text generalizing inRun with
  | nil => simp [collapseBlanksFrom]
  | cons c rest ih =>
    rw [collapseBlanksFrom, spaces_infix_cons_iff, List.forall_mem_cons]
    cases hc : isBlank c with
    | false =>
      have hspace : c ≠ ' ' := by
        rintro rfl
        exact absurd hc (by decide)
      simp [ih, hc, hspace]
    | true =>
      cases inRun with
      | true =>
        -- The blank is dropped, so the text gets shorter.
        have hshorter := length_collapseBlanksFrom_le true rest
        have hne : collapseBlanksFrom true rest ≠ c :: rest := by
          intro heq
          rw [heq, List.length_cons] at hshorter
          omega
        simp [hne, hc]
      | false =>
        simp only [if_true, Bool.false_eq_true, if_false, List.cons.injEq, ih, forall_const,
          false_implies, and_true]
        constructor
        · rintro ⟨rfl, hblanks, hsingle, hhead⟩
          refine ⟨⟨rfl, hblanks⟩, ?_⟩
          rintro (⟨-, hspace⟩ | hinfix)
          · exact absurd (hhead ' ' hspace) (by decide)
          · exact hsingle hinfix
        · rintro ⟨⟨rfl, hblanks⟩, hsingle⟩
          refine ⟨rfl, hblanks, fun h => hsingle (Or.inr h), fun d hd => ?_⟩
          by_contra hblank
          have hspace := hblanks d (List.mem_of_mem_head? hd) (Bool.not_eq_false _ ▸ hblank)
          exact hsingle (Or.inl ⟨rfl, hspace ▸ hd⟩)

theorem collapseBlanks_eq_self_iff :
    collapseBlanks text = text ↔
      (∀ c ∈ text, isBlank c = true → c = ' ') ∧ ¬ [' ', ' '] <:+: text := by
  rw [collapseBlanks, collapseBlanksFrom_eq_self_iff]
  simp

/-! ### Names -/

theorem isCleanName_iff_isTidy : IsCleanName name ↔ IsTidy name := by
  constructor
  · intro h
    refine ⟨?_, ?_, ?_, ?_⟩
    · exact cleanCharacters_eq_self_iff.2 fun c hc =>
        cleanChar?_eq_self_iff.2 ⟨h.not_reserved c hc, h.not_control c hc⟩
    · exact collapseBlanks_eq_self_iff.2 ⟨h.space_of_isBlank, h.single_spaces⟩
    · exact fun c hc => isFilenameEdge_eq_false_iff.2 (h.head c hc)
    · exact fun c hc => isFilenameEdge_eq_false_iff.2 (h.last c hc)
  · intro h
    have hkept := cleanCharacters_eq_self_iff.1 h.cleaned
    obtain ⟨hspaces, hsingle⟩ := collapseBlanks_eq_self_iff.1 h.collapsed
    refine ⟨?_, ?_, hspaces, hsingle, ?_, ?_⟩
    · exact fun c hc => (cleanChar?_eq_self_iff.1 (hkept c hc)).1
    · exact fun c hc => (cleanChar?_eq_self_iff.1 (hkept c hc)).2
    · exact fun c hc => isFilenameEdge_eq_false_iff.1 (h.head c hc)
    · exact fun c hc => isFilenameEdge_eq_false_iff.1 (h.last c hc)

/-- Cleaning is a projection onto the clean names. -/
theorem cleanFilename_projects (title : Text) :
    IsCleanName (cleanFilename title) ∧
      (cleanFilename title = title ↔ IsCleanName title) ∧
      cleanFilename (cleanFilename title) = cleanFilename title := by
  have hclean : IsCleanName (cleanFilename title) :=
    isCleanName_iff_isTidy.2 (isTidy_cleanFilename title)
  refine ⟨hclean, ?_, cleanFilename_cleanFilename title⟩
  constructor
  · intro h
    rwa [h] at hclean
  · intro h
    exact (isCleanName_iff_isTidy.1 h).cleanFilename_eq

end NoteTemplate
