import NoteTemplate.Proofs.Text.Scan
import NoteTemplate.Proofs.Title.TagShape
import NoteTemplate.Title.Pieces

/-!
# The tags that count

The tags that count in a title stand one behind the other.  A tag that no other one
overlaps is among them, with the tags that stand before it in front and those that stand
behind it at the end (`exists_chosenTitleTags`).
-/

namespace NoteTemplate

variable {α : Type} {found : Occurrence α} {tags : List (Occurrence α)} {pos : Nat}

/-- The occurrences stand one behind the other, from a position on. -/
def ArePlaced (pos : Nat) : List (Occurrence α) → Prop
  | [] => True
  | found :: rest =>
    pos ≤ found.span.start ∧ found.span.start ≤ found.span.stop ∧ ArePlaced found.span.stop rest

theorem mem_of_mem_disjointFrom (h : found ∈ disjointFrom pos tags) : found ∈ tags := by
  induction tags generalizing pos with
  | nil => simp [disjointFrom] at h
  | cons first tags ih =>
    rw [disjointFrom] at h
    split at h
    · exact List.mem_cons_of_mem _ (ih h)
    · rcases List.mem_cons.1 h with rfl | h
      · exact List.mem_cons_self
      · exact List.mem_cons_of_mem _ (ih h)

theorem arePlaced_disjointFrom (h : ∀ found ∈ tags, found.span.start ≤ found.span.stop) :
    ArePlaced pos (disjointFrom pos tags) := by
  induction tags generalizing pos with
  | nil => trivial
  | cons first tags ih =>
    have htags : ∀ found ∈ tags, found.span.start ≤ found.span.stop :=
      fun found hfound => h found (List.mem_cons_of_mem _ hfound)
    rw [disjointFrom]
    split
    · exact ih htags
    · next hpos =>
      refine ⟨by omega, h first List.mem_cons_self, ih htags⟩

theorem ArePlaced.le_start (h : ArePlaced pos tags) (hmem : found ∈ tags) :
    pos ≤ found.span.start := by
  induction tags generalizing pos with
  | nil => simp at hmem
  | cons first tags ih =>
    obtain ⟨hpos, horder, htags⟩ := h
    rcases List.mem_cons.1 hmem with rfl | hmem
    · exact hpos
    · have hlater := ih htags hmem
      omega

theorem ArePlaced.start_le_stop (h : ArePlaced pos tags) (hmem : found ∈ tags) :
    found.span.start ≤ found.span.stop := by
  induction tags generalizing pos with
  | nil => simp at hmem
  | cons first tags ih =>
    obtain ⟨-, horder, htags⟩ := h
    rcases List.mem_cons.1 hmem with rfl | hmem
    · exact horder
    · exact ih htags hmem

/-- An occurrence that no other one overlaps is taken. -/
theorem exists_disjointFrom (hsorted : tags.Pairwise fun left right =>
      left.span.start ≤ right.span.start)
    (horder : ∀ found ∈ tags, found.span.start < found.span.stop) (hmem : found ∈ tags)
    (hpos : pos ≤ found.span.start)
    (hfree : ∀ other ∈ tags, other = found ∨ other.span.stop ≤ found.span.start ∨
      found.span.stop ≤ other.span.start) :
    ∃ earlier later, disjointFrom pos tags = earlier ++ found :: later ∧
      (∀ other ∈ earlier, other.span.stop ≤ found.span.start) ∧
      ∀ other ∈ later, found.span.stop ≤ other.span.start := by
  induction tags generalizing pos with
  | nil => simp at hmem
  | cons first tags ih =>
    obtain ⟨hfirst, hsorted⟩ := List.pairwise_cons.1 hsorted
    have horderTags : ∀ other ∈ tags, other.span.start < other.span.stop :=
      fun other hother => horder other (List.mem_cons_of_mem _ hother)
    have hfreeTags := fun other (hother : other ∈ tags) =>
      hfree other (List.mem_cons_of_mem _ hother)
    by_cases heq : first = found
    · subst heq
      have hplaced : ArePlaced first.span.stop (disjointFrom first.span.stop tags) :=
        arePlaced_disjointFrom fun other hother => Nat.le_of_lt (horderTags other hother)
      refine ⟨[], disjointFrom first.span.stop tags, ?_, by simp, ?_⟩
      · rw [disjointFrom, if_neg (by omega), List.nil_append]
      · exact fun other hother => hplaced.le_start hother
    · have hmem : found ∈ tags := (List.mem_cons.1 hmem).resolve_left (Ne.symm heq)
      have hstart := hfirst found hmem
      have hfound := horderTags found hmem
      have hstop : first.span.stop ≤ found.span.start := by
        rcases hfree first List.mem_cons_self with h | h | h
        · exact absurd h heq
        · exact h
        · omega
      rw [disjointFrom]
      split
      · exact ih hsorted horderTags hmem hpos hfreeTags
      · obtain ⟨earlier, later, htags, hearlier, hlater⟩ :=
          ih hsorted horderTags hmem hstop hfreeTags
        refine ⟨first :: earlier, later, ?_, ?_, hlater⟩
        · rw [htags, List.cons_append]
        · intro other hother
          rcases List.mem_cons.1 hother with rfl | hother
          · exact hstop
          · exact hearlier other hother

/-! ### The tags of a title -/

variable {pattern : Text} {withPrompts : Bool} {tag : Occurrence TitleTag}

theorem mem_titleTags_iff :
    tag ∈ titleTags pattern withPrompts ↔
      (∃ found ∈ variableTags pattern, tag = found.map TitleTag.variable) ∨
        withPrompts = true ∧ ∃ found ∈ promptTags pattern, tag = found.map TitleTag.prompt := by
  rw [titleTags, List.mem_merge]
  cases withPrompts <;> simp [eq_comm]

/-- Without prompts only variables count. -/
theorem chosenTitleTags_false (pattern : Text) :
    chosenTitleTags pattern false =
      disjointFrom 0 ((variableTags pattern).map (Occurrence.map TitleTag.variable)) := by
  rw [chosenTitleTags, titleTags]
  exact congrArg _ (List.merge_right _)

theorem titlePieces_nil [LocalZone] (context : RenderContext) (pattern : Text) :
    titlePieces context [] pattern = titlePiecesFrom context [] 0
      (disjointFrom 0 ((variableTags pattern).map (Occurrence.map TitleTag.variable)))
      pattern := by
  rw [titlePieces, List.isEmpty_nil, Bool.not_true, chosenTitleTags_false]

/-- What fences a tag: two characters in front and two behind. -/
structure IsFenced (text : Text) (span : Span Nat) (opening closing : Char) : Prop where
  length : span.start + 4 < span.stop
  first : text[span.start]? = some '\x7b'
  second : text[span.start + 1]? = some opening
  third : text[span.stop - 2]? = some closing
  last : text[span.stop - 1]? = some '\x7d'

theorem isFenced_of_drop {text rest : Text} {start : Nat} {opening closing : Char} (source : Text)
    (h : text.drop start = '\x7b' :: opening :: source ++ [closing, '\x7d'] ++ rest)
    (hne : source ≠ []) :
    IsFenced text ⟨start, start + (source.length + 4)⟩ opening closing := by
  have hpos : 0 < source.length := List.length_pos_iff.2 hne
  have hchar (i : Nat) : text[start + i]? =
      ('\x7b' :: opening :: source ++ [closing, '\x7d'] ++ rest)[i]? := by
    rw [← h, List.getElem?_drop]
  refine ⟨by dsimp only; omega, ?_, ?_, ?_, ?_⟩ <;> dsimp only
  · have h0 := hchar 0
    simpa using h0
  · have h1 := hchar 1
    simpa using h1
  · have hindex : start + (source.length + 4) - 2 = start + (source.length + 2) := by omega
    rw [hindex, hchar]
    simp
  · have hindex : start + (source.length + 4) - 1 = start + (source.length + 3) := by omega
    rw [hindex, hchar]
    simp

theorem isFenced_of_mem_variableTags {found : Occurrence VariableTag}
    (h : found ∈ variableTags pattern) : IsFenced pattern found.span '\x7b' '\x7d' := by
  obtain ⟨-, horder, hfound⟩ := recognise_of_mem_occurrences h
  obtain ⟨name, rest, hdrop, hwritten, -, hlength⟩ := VariableTag.recognise_iff.1 hfound
  have hfenced : IsFenced pattern _ '\x7b' '\x7d' :=
    isFenced_of_drop (name ++ VariableTag.formatSource found.value.format) hdrop
      (by simp [hwritten.name_ne_nil])
  have hspan : found.span = ⟨found.span.start, found.span.start +
      ((name ++ VariableTag.formatSource found.value.format).length + 4)⟩ := by
    rw [VariableTag.length_source, ← List.length_append] at hlength
    rw [← hlength, Nat.add_sub_cancel' horder]
  rwa [← hspan] at hfenced

theorem isFenced_of_mem_promptTags {found : TagOccurrence}
    (h : found ∈ promptTags pattern) : IsFenced pattern found.span '%' '%' := by
  obtain ⟨-, horder, hfound⟩ := recognise_of_mem_occurrences h
  obtain ⟨inside, rest, hdrop, hne, -, -, hlength⟩ := PromptTag.recognise_iff.1 hfound
  have hfenced := isFenced_of_drop inside hdrop hne
  have hspan : found.span = ⟨found.span.start, found.span.start + (inside.length + 4)⟩ := by
    have hsource : (PromptTag.source inside).length = inside.length + 4 := by
      simp [PromptTag.source]
    rw [← hsource, ← hlength, Nat.add_sub_cancel' horder]
  rwa [← hspan] at hfenced

theorem isFenced_of_mem_titleTags (h : tag ∈ titleTags pattern withPrompts) :
    IsFenced pattern tag.span '\x7b' '\x7d' ∨ IsFenced pattern tag.span '%' '%' := by
  rcases mem_titleTags_iff.1 h with ⟨found, hfound, rfl⟩ | ⟨-, found, hfound, rfl⟩
  · exact Or.inl (isFenced_of_mem_variableTags hfound)
  · exact Or.inr (isFenced_of_mem_promptTags hfound)

theorem start_lt_stop_of_mem_titleTags (h : tag ∈ titleTags pattern withPrompts) :
    tag.span.start < tag.span.stop := by
  rcases isFenced_of_mem_titleTags h with h | h
  · have hlength := h.length
    omega
  · have hlength := h.length
    omega

theorem pairwise_start_occurrences {recognise : Recogniser α} {text : Text}
    (h : (occurrences recognise text).Pairwise fun left right => left.span.stop ≤ right.span.start) :
    (occurrences recognise text).Pairwise fun left right => left.span.start ≤ right.span.start := by
  apply h.imp_of_mem
  intro left right hleft _ hle
  obtain ⟨-, horder, -⟩ := recognise_of_mem_occurrences hleft
  exact horder.trans hle

theorem pairwise_titleTags (pattern : Text) (withPrompts : Bool) :
    (titleTags pattern withPrompts).Pairwise fun left right =>
      left.span.start ≤ right.span.start := by
  have hvariables : ((variableTags pattern).map (Occurrence.map TitleTag.variable)).Pairwise
      fun left right => left.span.start ≤ right.span.start :=
    List.pairwise_map.2 (pairwise_start_occurrences (pairwise_variableTags pattern))
  have hprompts : (if withPrompts then (promptTags pattern).map (Occurrence.map TitleTag.prompt)
      else []).Pairwise fun left right => left.span.start ≤ right.span.start := by
    split
    · exact List.pairwise_map.2 (pairwise_start_occurrences (pairwise_promptTags pattern))
    · exact List.Pairwise.nil
  have hmerge := @List.pairwise_merge (Occurrence TitleTag)
    (fun left right => decide (left.span.start ≤ right.span.start))
    (fun a b c hab hbc => by simp only [decide_eq_true_eq] at *; omega)
    (fun a b => by simp only [Bool.or_eq_true, decide_eq_true_eq]; omega)
    _ _ (by simpa using hvariables) (by simpa using hprompts)
  simpa [titleTags] using hmerge

/-- A tag that no other one overlaps counts. -/
theorem exists_chosenTitleTags (hmem : tag ∈ titleTags pattern withPrompts)
    (hfree : ∀ other ∈ titleTags pattern withPrompts, other = tag ∨
      other.span.stop ≤ tag.span.start ∨ tag.span.stop ≤ other.span.start) :
    ∃ earlier later, chosenTitleTags pattern withPrompts = earlier ++ tag :: later ∧
      (∀ other ∈ earlier, other.span.stop ≤ tag.span.start) ∧
      ∀ other ∈ later, tag.span.stop ≤ other.span.start :=
  exists_disjointFrom (pairwise_titleTags pattern withPrompts)
    (fun _ hother => start_lt_stop_of_mem_titleTags hother) hmem (Nat.zero_le _) hfree

theorem arePlaced_chosenTitleTags (pattern : Text) (withPrompts : Bool) :
    ArePlaced 0 (chosenTitleTags pattern withPrompts) :=
  arePlaced_disjointFrom fun _ htag => Nat.le_of_lt (start_lt_stop_of_mem_titleTags htag)

theorem mem_titleTags_of_mem_chosen (h : tag ∈ chosenTitleTags pattern withPrompts) :
    tag ∈ titleTags pattern withPrompts :=
  mem_of_mem_disjointFrom h

end NoteTemplate
