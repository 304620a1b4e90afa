import NoteTemplate.Proofs.Text.Scan
import NoteTemplate.Proofs.Text.Slice
import NoteTemplate.Proofs.Title.TagShape

/-!
# A text parted at its tags

A text is a row of tags with gaps in front of them and a rest behind the last one.  No tag
starts in a gap, and for this it does not matter what the tags have inside: a text that starts
in the gap and reaches into the next tag is closed, if at all, by a brace directly behind the
opening of that tag (`IsQuiet.of_opening`).  So other insides make other tags, in the same
gaps.
-/

namespace NoteTemplate

variable {gap inside other rest behind last text : Text} {parts : List (Text × Text)} {pos : Nat}
  {c d : Char}

/-! ### Parts -/

/-- An inside that a tag can have. -/
structure IsInside (inside : Text) : Prop where
  ne_nil : inside ≠ []
  no_percent : '%' ∉ inside

/-- The text with these gaps and tags, each tag given by its inside, and this rest. -/
def joinTags (last : Text) : List (Text × Text) → Text
  | [] => last
  | (gap, inside) :: more => gap ++ (PromptTag.source inside ++ joinTags last more)

/-- No tag starts in the gap when this stands behind it. -/
def IsQuiet (gap behind : Text) : Prop :=
  ∀ part, part ≠ [] → part <:+ gap → PromptTag.recognise (part ++ behind) = none

/-- The insides can stand in tags, and no other tag starts in the gaps. -/
inductive AreParted (last : Text) : List (Text × Text) → Prop
  | nil (hlast : IsQuiet last []) : AreParted last []
  | cons {gap inside : Text} {more : List (Text × Text)} (hinside : IsInside inside)
      (hgap : IsQuiet gap (PromptTag.source inside ++ joinTags last more))
      (hmore : AreParted last more) : AreParted last ((gap, inside) :: more)

theorem append_joinTags_cons (front gap inside last : Text) (more : List (Text × Text)) :
    front ++ joinTags last ((gap, inside) :: more) =
      front ++ gap ++ PromptTag.source inside ++ joinTags last more := by
  simp [joinTags]

/-- The tags with these insides, where they stand behind their gaps. -/
def tagsFrom (pos : Nat) : List (Text × Text) → List TagOccurrence
  | [] => []
  | (gap, inside) :: more =>
    let start := pos + gap.length
    let stop := start + (PromptTag.source inside).length
    ⟨⟨start, stop⟩, PromptTag.ofInside inside⟩ :: tagsFrom stop more

/-! ### Quiet gaps -/

theorem IsQuiet.of_cons (h : IsQuiet (c :: gap) behind) : IsQuiet gap behind :=
  fun part hne hsuffix => h part hne (hsuffix.trans (List.suffix_cons c gap))

theorem isQuiet_nil (behind : Text) : IsQuiet [] behind := by
  intro part hne hsuffix
  exact absurd (List.suffix_nil.1 hsuffix) hne

theorem IsQuiet.cons (h : IsQuiet gap behind)
    (hnone : PromptTag.recognise (c :: gap ++ behind) = none) : IsQuiet (c :: gap) behind := by
  intro part hne hsuffix
  rcases List.suffix_cons_iff.1 hsuffix with rfl | hsuffix
  · exact hnone
  · exact h part hne hsuffix

/-- What is recognised in front of the opening of a tag ends there or in front of it. -/
theorem source_prefix_of_recognise {part : Text} {length : Nat} {tag : PromptTag}
    (hne : part ≠ [])
    (h : PromptTag.recognise (part ++ '\x7b' :: '%' :: c :: rest) = some (length, tag)) :
    ∃ inside, IsInside inside ∧ PromptTag.source inside <+: part ++ ['\x7b', '%', c] := by
  obtain ⟨inside, tail, htext, hinsideNe, hpercent, -, -⟩ := PromptTag.recognise_iff.1 h
  refine ⟨inside, ⟨hinsideNe, hpercent⟩, ?_⟩
  have hwhole : part ++ '\x7b' :: '%' :: c :: rest = part ++ ['\x7b', '%', c] ++ rest := by simp
  rw [hwhole] at htext
  have hsource : PromptTag.source inside <+: part ++ ['\x7b', '%', c] ++ rest := by
    rw [htext]
    exact List.prefix_append _ _
  apply List.prefix_of_prefix_length_le hsource (List.prefix_append _ _)
  -- Otherwise the percent sign of the opening would stand in the inside.
  by_contra hlong
  have hlength : (PromptTag.source inside).length = inside.length + 4 := by
    simp [PromptTag.source]
  have hreach : part.length ≤ inside.length := by
    rw [hlength, List.length_append] at hlong
    simp only [List.length_cons, List.length_nil] at hlong
    omega
  have hpos := List.length_pos_iff.2 hne
  have hat : (part ++ ['\x7b', '%', c] ++ rest)[part.length + 1]? = some '%' := by
    simp
  rw [htext] at hat
  apply hpercent
  have hinner : (PromptTag.source inside ++ tail)[part.length + 1]? =
      inside[part.length - 1]? := by
    obtain ⟨before, hbefore⟩ := Nat.exists_eq_add_of_lt hpos
    rw [Nat.zero_add] at hbefore
    rw [PromptTag.source, List.append_assoc, List.cons_append, List.cons_append, hbefore]
    simp only [List.getElem?_cons_succ, Nat.add_sub_cancel]
    rw [List.getElem?_append_left (by omega)]
  rw [hinner] at hat
  exact List.mem_of_getElem? hat

/-- Whether a gap in front of a tag is quiet depends on the tag only where it starts with a brace
behind its opening. -/
theorem IsQuiet.of_opening (h : IsQuiet gap ('\x7b' :: '%' :: c :: rest))
    (hbrace : d = '\x7d' → c = '\x7d') : IsQuiet gap ('\x7b' :: '%' :: d :: behind) := by
  intro part hne hsuffix
  have hquiet := h part hne hsuffix
  by_contra hsome
  obtain ⟨⟨length, tag⟩, hfound⟩ := Option.ne_none_iff_exists'.1 hsome
  obtain ⟨inside, hinside, hsource⟩ := source_prefix_of_recognise hne hfound
  have hthere : PromptTag.source inside <+: part ++ '\x7b' :: '%' :: c :: rest := by
    have hopening : part ++ ['\x7b', '%', d] = part ++ ['\x7b', '%'] ++ [d] := by simp
    have hbehind : part ++ '\x7b' :: '%' :: c :: rest =
        part ++ ['\x7b', '%'] ++ [c] ++ rest := by simp
    rw [hopening] at hsource
    rw [hbehind]
    rcases List.prefix_concat_iff.1 hsource with heq | hsource
    · have hclosing : PromptTag.source inside = '\x7b' :: '%' :: inside ++ ['%'] ++ ['\x7d'] := by
        simp [PromptTag.source]
      have hd : d = '\x7d' := by
        rw [hclosing] at heq
        exact (List.singleton_inj.1 (List.append_inj_right' heq rfl)).symm
      rw [hbrace hd, ← hd, ← heq]
      exact List.prefix_append _ _
    · rw [List.append_assoc]
      exact hsource.trans (List.prefix_append _ _)
  obtain ⟨tail, htail⟩ := hthere
  have hrecognised := PromptTag.recognise_iff.2
    ⟨inside, tail, htail.symm, hinside.ne_nil, hinside.no_percent, rfl, rfl⟩
  rw [hquiet] at hrecognised
  cases hrecognised

/-- A gap stays quiet when the tag behind it gets another inside. -/
theorem IsQuiet.of_source (h : IsQuiet gap (PromptTag.source inside ++ rest))
    (hinside : IsInside inside) (hother : IsInside other)
    (hbrace : other.head? = some '\x7d' → inside.head? = some '\x7d') (behind : Text) :
    IsQuiet gap (PromptTag.source other ++ behind) := by
  cases inside with
  | nil => exact absurd rfl hinside.ne_nil
  | cons c inside =>
    cases other with
    | nil => exact absurd rfl hother.ne_nil
    | cons d other =>
      apply IsQuiet.of_opening h
      simpa using hbrace

/-! ### The tags of a parted text -/

theorem IsQuiet.occurrencesFrom_append (h : IsQuiet gap behind) (pos : Nat) :
    occurrencesFrom PromptTag.recognise pos 0 (gap ++ behind) =
      occurrencesFrom PromptTag.recognise (pos + gap.length) 0 behind := by
  induction gap generalizing pos with
  | nil => rfl
  | cons c gap ih =>
    have hnone : PromptTag.recognise (c :: (gap ++ behind)) = none :=
      h (c :: gap) (by simp) List.suffix_rfl
    rw [List.cons_append, occurrencesFrom, hnone, List.length_cons, ← Nat.add_assoc,
      Nat.add_right_comm]
    exact ih h.of_cons (pos + 1)

theorem IsInside.recognise_source (h : IsInside inside) (rest : Text) :
    PromptTag.recognise (PromptTag.source inside ++ rest) =
      some ((PromptTag.source inside).length, PromptTag.ofInside inside) :=
  PromptTag.recognise_iff.2 ⟨inside, rest, rfl, h.ne_nil, h.no_percent, rfl, rfl⟩

theorem IsInside.occurrencesFrom_source (h : IsInside inside) (pos : Nat) (rest : Text) :
    occurrencesFrom PromptTag.recognise pos 0 (PromptTag.source inside ++ rest) =
      ⟨⟨pos, pos + (PromptTag.source inside).length⟩, PromptTag.ofInside inside⟩ ::
        occurrencesFrom PromptTag.recognise (pos + (PromptTag.source inside).length) 0 rest := by
  have hskip := occurrencesFrom_skip PromptTag.recognise (pos + 1)
    ('%' :: inside ++ ['%', '\x7d']).length ('%' :: inside ++ ['%', '\x7d'] ++ rest)
  rw [List.drop_left] at hskip
  have hrecognise := h.recognise_source rest
  rw [PromptTag.source, List.cons_append, List.cons_append] at hrecognise ⊢
  rw [occurrencesFrom, hrecognise]
  rw [List.cons_append] at hskip
  simp only [List.length_cons, Nat.add_sub_cancel, List.cons_append] at hskip ⊢
  rw [hskip]
  congr 2
  omega

/-- The tags of a parted text are those that it was parted at. -/
theorem AreParted.promptTags_joinTags (h : AreParted last parts) :
    promptTags (joinTags last parts) = tagsFrom 0 parts := by
  have hfrom (pos : Nat) :
      occurrencesFrom PromptTag.recognise pos 0 (joinTags last parts) = tagsFrom pos parts := by
    induction h generalizing pos with
    | nil hlast =>
      have hscan := hlast.occurrencesFrom_append pos
      rwa [List.append_nil] at hscan
    | cons hinside hgap hmore ih =>
      rw [joinTags, hgap.occurrencesFrom_append, hinside.occurrencesFrom_source, ih, tagsFrom]
  exact hfrom 0

/-- Every text can be parted at its tags. -/
theorem exists_parted (text : Text) :
    ∃ last parts, text = joinTags last parts ∧ AreParted last parts := by
  induction hlength : text.length using Nat.strongRecOn generalizing text with
  | ind length ih =>
    cases text with
    | nil => exact ⟨[], [], rfl, .nil (isQuiet_nil [])⟩
    | cons c rest =>
      cases hfound : PromptTag.recognise (c :: rest) with
      | some found =>
        obtain ⟨inside, behind, htext, hne, hpercent, -, -⟩ := PromptTag.recognise_iff.1 hfound
        have hshorter : behind.length < length := by
          rw [← hlength, htext, List.length_append, PromptTag.source]
          simp
        obtain ⟨last, parts, hbehind, hparted⟩ := ih _ hshorter behind rfl
        refine ⟨last, ([], inside) :: parts, ?_, .cons ⟨hne, hpercent⟩ (isQuiet_nil _) hparted⟩
        rw [htext, hbehind, joinTags, List.nil_append]
      | none =>
        have hshorter : rest.length < length := by
          rw [← hlength]
          exact Nat.lt_succ_self _
        obtain ⟨last, parts, hrest, hparted⟩ := ih _ hshorter rest rfl
        rw [hrest] at hfound
        cases hparted with
        | nil hlast =>
          refine ⟨c :: last, [], by rw [hrest]; rfl, .nil (hlast.cons ?_)⟩
          rwa [List.append_nil]
        | cons hinside hgap hmore =>
          exact ⟨last, (c :: _, _) :: _, by rw [hrest]; rfl, .cons hinside (hgap.cons hfound) hmore⟩

/-- The text stays parted when its tags get other insides. -/
theorem AreParted.map {change : Text → Text} (h : AreParted last parts)
    (hinside : ∀ inside, IsInside inside → IsInside (change inside))
    (hbrace : ∀ inside, (change inside).head? = some '\x7d' → inside.head? = some '\x7d') :
    AreParted last (parts.map (Prod.map id change)) := by
  induction h with
  | nil hlast => exact .nil hlast
  | cons hold hgap hmore ih =>
    exact .cons (hinside _ hold) (hgap.of_source hold (hinside _ hold) (hbrace _) _) ih

/-! ### Gaps -/

/-- The texts in front of the stretches, between them and behind them, from a position on. -/
def Text.gapsFrom (text : Text) (pos : Nat) : List (Span Nat) → List Text
  | [] => [text.drop pos]
  | span :: spans => Text.slice text pos span.start :: gapsFrom text span.stop spans

/-- The texts in front of the stretches, between them and behind them. -/
def Text.gaps (text : Text) (spans : List (Span Nat)) : List Text := text.gapsFrom 0 spans

theorem gaps_joinTags (last : Text) (parts : List (Text × Text)) :
    (joinTags last parts).gaps ((tagsFrom 0 parts).map Occurrence.span) =
      parts.map Prod.fst ++ [last] := by
  have hfrom (front : Text) : (front ++ joinTags last parts).gapsFrom front.length
      ((tagsFrom front.length parts).map Occurrence.span) = parts.map Prod.fst ++ [last] := by
    induction parts generalizing front with
    | nil => simp [Text.gapsFrom, tagsFrom, joinTags]
    | cons part more ih =>
      obtain ⟨gap, inside⟩ := part
      have hlater := ih (front ++ gap ++ PromptTag.source inside)
      rw [List.length_append, List.length_append] at hlater
      have hgap : gap <+: (front ++ gap ++ PromptTag.source inside ++ joinTags last more).drop
          front.length := by
        rw [List.append_assoc, List.append_assoc, List.drop_left]
        exact List.prefix_append _ _
      rw [append_joinTags_cons, tagsFrom, List.map_cons, Text.gapsFrom,
        Text.slice_eq_of_prefix_drop hgap, hlater]
      rfl
  exact hfrom []

end NoteTemplate
