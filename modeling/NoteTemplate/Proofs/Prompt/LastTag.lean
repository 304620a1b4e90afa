import NoteTemplate.Proofs.Prompt.Grammar
import NoteTemplate.Proofs.Prompt.PartedText
import NoteTemplate.Proofs.Text.Split

/-!
# The tag at the end of a text

A text that ends as a tag is written need not end in a tag: an earlier tag may reach over its
opening (`exists_last_promptTag_iff`).  Whether one does is decided by the first character behind
the opening, because only a brace closes the earlier tag there (`isFreeAt_of_opening`,
`isFreeAt_of_ne_brace`).
-/

namespace NoteTemplate

variable {front other inside behind opened rest text : Text} {c : Char} {pos : Nat}

/-- No tag that starts in front of the place reaches over it. -/
def IsFreeAt (text : Text) (pos : Nat) : Prop :=
  ∀ found ∈ promptTags text, found.span.start < pos → found.span.stop ≤ pos

/-! ### The last opening -/

/-- The last percent sign of a text shows where its last opening is. -/
theorem append_opening_inj
    (h : front ++ '\x7b' :: '%' :: inside = other ++ '\x7b' :: '%' :: behind)
    (hinside : '%' ∉ inside) (hbehind : '%' ∉ behind) : front = other ∧ inside = behind := by
  have hcut : Text.cutAtLast? '%' (front ++ ['\x7b'] ++ '%' :: inside) =
      Text.cutAtLast? '%' (other ++ ['\x7b'] ++ '%' :: behind) := by
    rw [List.append_assoc, List.append_assoc]
    exact congrArg _ h
  rw [Text.cutAtLast?_append _ hinside, Text.cutAtLast?_append _ hbehind, Option.some.injEq,
    Prod.mk.injEq] at hcut
  exact ⟨List.append_cancel_right hcut.1, hcut.2⟩

theorem append_source_inj
    (h : front ++ PromptTag.source inside = other ++ PromptTag.source behind)
    (hinside : '%' ∉ inside) (hbehind : '%' ∉ behind) : front = other ∧ inside = behind := by
  apply append_opening_inj _ hinside hbehind
  rw [PromptTag.source, PromptTag.source, ← List.append_assoc, ← List.append_assoc] at h
  exact List.append_cancel_right h

/-- Behind the last opening no tag starts when there is no other percent sign. -/
theorem start_lt_of_mem_promptTags {found : TagOccurrence} (hpercent : '%' ∉ opened)
    (h : found ∈ promptTags (front ++ '\x7b' :: '%' :: opened)) :
    found.span.start < front.length := by
  by_contra hstart
  obtain ⟨-, -, hfound⟩ := recognise_of_mem_occurrences h
  obtain ⟨inside, rest, hdrop, -⟩ := PromptTag.recognise_iff.1 hfound
  rw [List.drop_append, List.drop_eq_nil_of_le (Nat.le_of_not_lt hstart), List.nil_append] at hdrop
  have hsublist : (PromptTag.source inside).Sublist ('\x7b' :: '%' :: opened) :=
    (List.sublist_append_left _ rest).trans (hdrop ▸ List.drop_sublist _ _)
  have hcount := hsublist.count_le '%'
  simp [PromptTag.source, List.count_eq_zero.2 hpercent] at hcount

/-! ### Tags that reach over an opening -/

theorem PromptTag.source_ne_concat (hc : c ≠ '\x7d') : PromptTag.source inside ≠ front ++ [c] := by
  intro heq
  have hlast := congrArg List.getLast? heq
  rw [PromptTag.source, List.getLast?_append, List.getLast?_concat] at hlast
  exact hc (Option.some.inj hlast).symm

theorem IsInside.recognise_of_prefix (h : IsInside inside)
    (hsource : PromptTag.source inside <+: text) :
    PromptTag.recognise text =
      some ((PromptTag.source inside).length, PromptTag.ofInside inside) := by
  obtain ⟨rest, rfl⟩ := hsource
  exact h.recognise_source rest

theorem prefix_opening_append {part : Text} (h : text <+: part ++ ['\x7b', '%', c])
    (rest : Text) : text <+: part ++ '\x7b' :: '%' :: c :: rest := by
  have hshift : part ++ '\x7b' :: '%' :: c :: rest = part ++ ['\x7b', '%', c] ++ rest := by simp
  rw [hshift]
  exact h.trans (List.prefix_append _ _)

/-- What starts in front of an opening does not depend on more than one character behind it. -/
theorem recognise_opening_congr {part : Text} (hne : part ≠ []) (rest other : Text) :
    PromptTag.recognise (part ++ '\x7b' :: '%' :: c :: rest) =
      PromptTag.recognise (part ++ '\x7b' :: '%' :: c :: other) := by
  have hmoves {rest other : Text} {found : Nat × PromptTag}
      (h : PromptTag.recognise (part ++ '\x7b' :: '%' :: c :: rest) = some found) :
      PromptTag.recognise (part ++ '\x7b' :: '%' :: c :: other) = some found := by
    obtain ⟨inside, hinside, hsource⟩ := source_prefix_of_recognise hne h
    rw [hinside.recognise_of_prefix (prefix_opening_append hsource rest)] at h
    rw [hinside.recognise_of_prefix (prefix_opening_append hsource other), h]
  exact Option.ext fun found => ⟨hmoves, hmoves⟩

theorem isFreeAt_of_opening (h : IsFreeAt (front ++ '\x7b' :: '%' :: c :: rest) front.length)
    (other : Text) : IsFreeAt (front ++ '\x7b' :: '%' :: c :: other) front.length := by
  intro found hfound hstart
  apply h found _ hstart
  apply mem_occurrencesFrom_append _ _ hfound
  · intro part hne _
    exact recognise_opening_congr hne other rest
  · rwa [Nat.zero_add]

/-- Without a brace behind the opening a tag in front of it ends in front of it. -/
theorem length_le_of_recognise_opening {part : Text} {found : Nat × PromptTag} (hne : part ≠ [])
    (hbrace : rest.head? ≠ some '\x7d')
    (h : PromptTag.recognise (part ++ '\x7b' :: '%' :: rest) = some found) :
    found.1 ≤ part.length := by
  -- A blank at the end makes sure that there is a character behind the opening.
  obtain ⟨c, more, hmore, hc⟩ : ∃ c more, rest ++ [' '] = c :: more ∧ c ≠ '\x7d' := by
    cases rest with
    | nil => exact ⟨' ', [], rfl, by decide⟩
    | cons c rest => exact ⟨c, rest ++ [' '], rfl, by simpa using hbrace⟩
  obtain ⟨inside, tail, htext, hinsideNe, hpercent, htag, hlength⟩ := PromptTag.recognise_iff.1 h
  have hblank :
      part ++ '\x7b' :: '%' :: c :: more = PromptTag.source inside ++ (tail ++ [' ']) := by
    rw [← hmore, ← List.append_assoc, ← htext]
    simp
  have hrecognised : PromptTag.recognise (part ++ '\x7b' :: '%' :: c :: more) = some found :=
    PromptTag.recognise_iff.2 ⟨inside, tail ++ [' '], hblank, hinsideNe, hpercent, htag, hlength⟩
  obtain ⟨written, hwritten, hsource⟩ := source_prefix_of_recognise hne hrecognised
  rw [hwritten.recognise_of_prefix (prefix_opening_append hsource more)] at hrecognised
  obtain rfl := Option.some.inj hrecognised
  -- A tag ends in a brace, and none of these three characters is one.
  have hshort : PromptTag.source written <+: part := by
    have hsplit : part ++ ['\x7b', '%', c] = part ++ ['\x7b'] ++ ['%'] ++ [c] := by simp
    rw [hsplit] at hsource
    rcases List.prefix_concat_iff.1 hsource with hlast | hsource
    · exact absurd hlast (PromptTag.source_ne_concat hc)
    rcases List.prefix_concat_iff.1 hsource with hlast | hsource
    · exact absurd hlast (PromptTag.source_ne_concat (by decide))
    rcases List.prefix_concat_iff.1 hsource with hlast | hsource
    · exact absurd hlast (PromptTag.source_ne_concat (by decide))
    · exact hsource
  exact hshort.length_le

theorem isFreeAt_of_ne_brace (hbrace : rest.head? ≠ some '\x7d') :
    IsFreeAt (front ++ '\x7b' :: '%' :: rest) front.length := by
  intro found hfound hstart
  obtain ⟨-, horder, hrecognised⟩ := recognise_of_mem_occurrences hfound
  rw [List.drop_append_of_le_length (Nat.le_of_lt hstart)] at hrecognised
  have hne : front.drop found.span.start ≠ [] := by
    simpa using hstart
  have hlength := length_le_of_recognise_opening hne hbrace hrecognised
  rw [List.length_drop] at hlength
  dsimp only at hlength
  omega

/-- In a text that ends in an open tag, all tags end in front of its opening or one of them
reaches over it. -/
theorem isFreeAt_iff_of_opened (front : Text) (hpercent : '%' ∉ opened) :
    IsFreeAt (front ++ '\x7b' :: '%' :: opened) front.length ↔
      ∀ found ∈ promptTags (front ++ '\x7b' :: '%' :: opened), found.span.stop ≤ front.length := by
  constructor
  · intro h found hfound
    exact h found hfound (start_lt_of_mem_promptTags hpercent hfound)
  · intro h found hfound _
    exact h found hfound

/-! ### The last tag -/

/-- A text that ends as a tag is written ends in a tag exactly when the opening is free. -/
theorem exists_last_promptTag_iff {p : TagOccurrence → Prop} (hinside : IsInside inside)
    (htext : text = front ++ PromptTag.source inside) :
    (∃ found ∈ promptTags text, found.span.stop = text.length ∧ p found) ↔
      IsFreeAt text front.length ∧
        p ⟨⟨front.length, text.length⟩, PromptTag.ofInside inside⟩ := by
  have hdrop : text.drop front.length = PromptTag.source inside := by rw [htext, List.drop_left]
  have hlength : text.length = front.length + (PromptTag.source inside).length := by
    rw [htext, List.length_append]
  constructor
  · rintro ⟨found, hfound, hstop, hp⟩
    obtain ⟨hstart, horder, hrecognised⟩ := recognise_of_mem_occurrences hfound
    obtain ⟨written, rest, hwritten, -, hpercent, hvalue, hsource⟩ :=
      PromptTag.recognise_iff.1 hrecognised
    have hrest : rest = [] := by
      have hall := congrArg List.length hwritten
      rw [List.length_drop, List.length_append, ← hsource, hstop] at hall
      exact List.eq_nil_of_length_eq_zero (by omega)
    rw [hrest, List.append_nil] at hwritten
    have hparts : text.take found.span.start ++ PromptTag.source written =
        front ++ PromptTag.source inside := by
      rw [← hwritten, List.take_append_drop, htext]
    obtain ⟨hfront, rfl⟩ := append_source_inj hparts hpercent hinside.no_percent
    have hplace : found.span.start = front.length := by
      rw [← hfront, List.length_take]
      omega
    have heq : found = ⟨⟨front.length, text.length⟩, PromptTag.ofInside written⟩ := by
      rw [← hplace, ← hstop, ← hvalue]
    refine ⟨fun earlier hearlier hlt => ?_, heq ▸ hp⟩
    rw [← hplace] at hlt ⊢
    exact (((isScan_promptTags text).mem_iff found).1 hfound).2 earlier hearlier hlt
  · rintro ⟨hfree, hp⟩
    have hrecognised : PromptTag.recognise (text.drop front.length) =
        some ((PromptTag.source inside).length, PromptTag.ofInside inside) := by
      rw [hdrop]
      exact hinside.recognise_of_prefix List.prefix_rfl
    have hmem := mem_occurrences (by simp [hlength, PromptTag.source]) hrecognised hfree
    rw [← hlength] at hmem
    exact ⟨_, hmem, rfl, hp⟩

end NoteTemplate
