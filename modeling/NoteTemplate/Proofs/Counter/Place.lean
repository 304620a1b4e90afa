import NoteTemplate.Counter.Pattern
import NoteTemplate.Proofs.Text.Ascii
import NoteTemplate.Proofs.Title.Chosen

/-!
# The place of the counter

The first counter tag of a pattern is a variable tag.  No other tag can overlap a part of
it: a tag that starts before it and ends behind its start reaches over the whole of it.  So
a counter tag that stands free of longer tags is one of the tags that count.
-/

namespace NoteTemplate

variable {pattern before after name text : Text}

/-- The stretch reaches over another one and is longer. -/
def Span.IsLonger (outer inner : Span Nat) : Prop :=
  outer.start ≤ inner.start ∧ inner.stop ≤ outer.stop ∧ outer ≠ inner

instance (outer inner : Span Nat) : Decidable (outer.IsLonger inner) := by
  unfold Span.IsLonger; infer_instance

/-- No longer tag reaches over the first counter tag. -/
def CounterStandsFree (pattern : Text) : Prop :=
  ∀ counter ∈ (counterTags pattern).head?,
    (∀ found ∈ variableTags pattern, ¬found.span.IsLonger counter.span) ∧
      ∀ found ∈ promptTags pattern, ¬found.span.IsLonger counter.span

instance (pattern : Text) : Decidable (CounterStandsFree pattern) := by
  unfold CounterStandsFree; infer_instance

/-- A spelling of the name of the counter, in any case. -/
def IsCounterName (name : Text) : Prop := name.map Char.toLower = Variable.counter.name

/-! ### The spelling of the tag -/

theorem eq_brace_of_toLower {c d : Char} (hd : d = '\x7b' ∨ d = '\x7d') (h : c.toLower = d) :
    c = d := by
  have hascii : c.toNat < 128 := by
    apply toNat_lt_of_toLower
    rw [h]
    rcases hd with rfl | rfl <;> decide
  rcases hd with rfl | rfl
  · exact forall_ascii (p := fun c => c.toLower = '\x7b' → c = '\x7b') (by decide +kernel) hascii h
  · exact forall_ascii (p := fun c => c.toLower = '\x7d' → c = '\x7d') (by decide +kernel) hascii h

/-- Two braces of one kind are the same in every case. -/
theorem eq_braces_of_map {d : Char} {braces : Text} (hd : d = '\x7b' ∨ d = '\x7d')
    (h : braces.map Char.toLower = [d, d]) : braces = [d, d] := by
  obtain ⟨c, more, rfl, hc, hmore⟩ := List.map_eq_cons_iff.1 h
  obtain ⟨e, rfl, he⟩ := List.map_eq_singleton_iff.1 hmore
  rw [eq_brace_of_toLower hd hc, eq_brace_of_toLower hd he]

/-- A counter tag in any case is a variable tag with the name of the counter. -/
theorem counterTag_iff :
    text.map Char.toLower = counterTag ↔
      ∃ name, text = VariableTag.source name none ∧ IsCounterName name := by
  have hsplit : counterTag = ['\x7b', '\x7b'] ++ (Variable.counter.name ++ ['\x7d', '\x7d']) := by
    decide
  rw [hsplit]
  constructor
  · intro h
    obtain ⟨opening, rest, rfl, hopening, hrest⟩ := List.map_eq_append_iff.1 h
    obtain ⟨name, closing, rfl, hname, hclosing⟩ := List.map_eq_append_iff.1 hrest
    refine ⟨name, ?_, hname⟩
    rw [eq_braces_of_map (Or.inl rfl) hopening, eq_braces_of_map (Or.inr rfl) hclosing]
    simp [VariableTag.source, VariableTag.formatSource, VariableTag.closing]
  · rintro ⟨name, rfl, hname⟩
    have hbraces : (['\x7b', '\x7b'] : Text).map Char.toLower = ['\x7b', '\x7b'] ∧
        (['\x7d', '\x7d'] : Text).map Char.toLower = ['\x7d', '\x7d'] := by
      decide
    have hsource : VariableTag.source name none =
        ['\x7b', '\x7b'] ++ (name ++ ['\x7d', '\x7d']) := by
      simp [VariableTag.source, VariableTag.formatSource, VariableTag.closing]
    rw [hsource, List.map_append, List.map_append, hbraces.1, hbraces.2, hname]

namespace IsCounterName

theorem length (h : IsCounterName name) : name.length = 7 := by
  have hlength := congrArg List.length h
  rwa [List.length_map] at hlength

theorem isAscii (h : IsCounterName name) {c : Char} (hc : c ∈ name) : c.toNat < 128 := by
  apply toNat_lt_of_toLower
  have hmem : c.toLower ∈ Variable.counter.name := h ▸ List.mem_map_of_mem hc
  have hall : Variable.counter.name.all (fun d => d.toNat < 128) = true := by decide
  exact of_decide_eq_true (List.all_eq_true.1 hall _ hmem)

theorem isAlpha (h : IsCounterName name) {c : Char} (hc : c ∈ name) : c.isAlpha = true := by
  have hmem : c.toLower ∈ Variable.counter.name := h ▸ List.mem_map_of_mem hc
  have hall : ∀ n < 128, (Char.ofNat n).toLower ∈ Variable.counter.name →
      (Char.ofNat n).isAlpha = true := by
    decide +kernel
  exact forall_ascii (p := fun c => c.toLower ∈ Variable.counter.name → c.isAlpha = true) hall
    (h.isAscii hc) hmem

theorem isWritten (h : IsCounterName name) : VariableTag.IsWritten name none where
  name_ne_nil := by
    rintro rfl
    have hlength := h.length
    simp at hlength
  name_word c hc := isWordChar_of_isAlpha (h.isAscii hc) (h.isAlpha hc)
  format_ne_nil := by simp
  format_closed := by simp

theorem lower (h : IsCounterName name) : Text.lower name = Variable.counter.name := by
  rw [Text.lower_of_ascii fun c hc => h.isAscii hc]
  exact h

theorem length_source (h : IsCounterName name) :
    (VariableTag.source name none).length = 11 := by
  rw [VariableTag.length_source, h.length]
  rfl

theorem recognise (h : IsCounterName name) (after : Text) :
    VariableTag.recognise (VariableTag.source name none ++ after) =
      some (11, ⟨Variable.counter.name, none⟩) :=
  VariableTag.recognise_iff.2
    ⟨name, after, rfl, h.isWritten, h.lower.symm, h.length_source.symm⟩

end IsCounterName

theorem hasCounter_eq (pattern : Text) : hasCounter pattern = (cutAtCounter? pattern).isSome := by
  rw [hasCounter, cutAtCounter?, Option.isSome_map]
  cases counterTags pattern <;> rfl

/-- What is recognised as a counter tag is spelled like one. -/
theorem recogniseCounter_iff {length : Nat} {value : Unit} :
    recogniseCounter text = some (length, value) ↔
      length = 11 ∧ ∃ name after, IsCounterName name ∧
        text = VariableTag.source name none ++ after := by
  have hlength : counterTag.length = 11 := rfl
  rw [recogniseCounter, hlength]
  constructor
  · intro h
    split at h
    · next htag =>
      obtain ⟨name, hname, hcounter⟩ := counterTag_iff.1 htag
      refine ⟨(Prod.mk.inj (Option.some.inj h)).1.symm, name, text.drop 11, hcounter, ?_⟩
      rw [← hname, List.take_append_drop]
    · simp at h
  · rintro ⟨rfl, name, after, hname, rfl⟩
    have htake : (VariableTag.source name none ++ after).take 11 = VariableTag.source name none := by
      rw [← hname.length_source, List.take_left]
    rw [htake, if_pos (counterTag_iff.2 ⟨name, rfl, hname⟩)]

theorem recogniseCounter_pos (text : Text) (length : Nat) (value : Unit)
    (h : recogniseCounter text = some (length, value)) : 0 < length := by
  rw [(recogniseCounter_iff.1 h).1]
  decide

/-- A counter tag stands between two parts of the pattern. -/
theorem exists_of_mem_counterTags {found : Occurrence Unit} (h : found ∈ counterTags pattern) :
    ∃ before name after, IsCounterName name ∧
      pattern = before ++ (VariableTag.source name none ++ after) ∧
      found = ⟨⟨before.length, before.length + 11⟩, ()⟩ := by
  obtain ⟨hstart, horder, hfound⟩ := recognise_of_mem_occurrences h
  obtain ⟨hlength, name, after, hname, hdrop⟩ := recogniseCounter_iff.1 hfound
  have hbefore : (pattern.take found.span.start).length = found.span.start :=
    List.length_take_of_le (Nat.le_of_lt hstart)
  refine ⟨pattern.take found.span.start, name, after, hname, ?_, ?_⟩
  · rw [← hdrop, List.take_append_drop]
  · obtain ⟨⟨start, stop⟩, value⟩ := found
    dsimp only at hlength horder hbefore ⊢
    rw [hbefore]
    congr 2
    omega

/-- Where a pattern is cut, a counter tag stands. -/
theorem exists_of_cutAtCounter? (h : cutAtCounter? pattern = some (before, after)) :
    ∃ name, IsCounterName name ∧ pattern = before ++ (VariableTag.source name none ++ after) ∧
      (counterTags pattern).head? = some ⟨⟨before.length, before.length + 11⟩, ()⟩ := by
  obtain ⟨found, hhead, hcut⟩ := Option.map_eq_some_iff.1 h
  obtain ⟨front, name, behind, hname, hpattern, rfl⟩ :=
    exists_of_mem_counterTags (List.mem_of_mem_head? hhead)
  obtain ⟨hbefore, hafter⟩ := Prod.mk.inj hcut
  dsimp only at hbefore hafter
  rw [hpattern, List.take_left] at hbefore
  rw [hpattern, ← hname.length_source, ← List.drop_drop, List.drop_left, List.drop_left] at hafter
  subst hbefore hafter
  exact ⟨name, hname, hpattern, hhead⟩

/-! ### Tags around the counter -/

/-- The characters of the tag that stands behind `before`. -/
theorem getElem?_of_counter (hpattern : pattern = before ++ (VariableTag.source name none ++ after))
    {i : Nat} (hi : i < (VariableTag.source name none).length) :
    pattern[before.length + i]? = (VariableTag.source name none)[i]? := by
  rw [hpattern, List.getElem?_append_right (Nat.le_add_right _ _), Nat.add_sub_cancel_left,
    List.getElem?_append_left hi]

theorem isAlpha_of_counter (hname : IsCounterName name)
    (hpattern : pattern = before ++ (VariableTag.source name none ++ after)) {i : Nat} {c : Char}
    (hlow : before.length + 2 ≤ i) (hhigh : i < before.length + 9) (hc : pattern[i]? = some c) :
    c.isAlpha = true := by
  obtain ⟨k, rfl⟩ := Nat.exists_eq_add_of_le hlow
  have hk : k < name.length := by
    rw [hname.length]
    omega
  have hindex : before.length + 2 + k = before.length + (k + 2) := by omega
  rw [hindex, getElem?_of_counter hpattern (by rw [hname.length_source]; omega)] at hc
  have hmiddle : (VariableTag.source name none)[k + 2]? = name[k]? := by
    simp [VariableTag.source, VariableTag.formatSource, List.getElem?_append_left, hk]
  rw [hmiddle] at hc
  exact hname.isAlpha (List.mem_of_getElem? hc)

/-- The braces of the tag. -/
theorem braces_of_counter (hname : IsCounterName name)
    (hpattern : pattern = before ++ (VariableTag.source name none ++ after)) :
    pattern[before.length]? = some '\x7b' ∧ pattern[before.length + 1]? = some '\x7b' ∧
      pattern[before.length + 9]? = some '\x7d' ∧ pattern[before.length + 10]? = some '\x7d' := by
  have hchar {i : Nat} (hi : i < 11) :
      pattern[before.length + i]? = (VariableTag.source name none)[i]? :=
    getElem?_of_counter hpattern (by rw [hname.length_source]; exact hi)
  have hbehind (i : Nat) : (VariableTag.source name none)[i + 9]? = ['\x7d', '\x7d'][i]? := by
    have hindex : i + 9 = ('\x7b' :: '\x7b' :: name).length + i := by
      simp [hname.length]
      omega
    rw [hindex, VariableTag.source, VariableTag.formatSource, List.append_nil,
      List.getElem?_append_right (Nat.le_add_right _ _), Nat.add_sub_cancel_left]
    rfl
  refine ⟨hchar (i := 0) (by omega), hchar (i := 1) (by omega), ?_, ?_⟩
  · rw [hchar (i := 9) (by omega), hbehind 0]
    rfl
  · rw [hchar (i := 10) (by omega), hbehind 1]
    rfl

section

variable (hname : IsCounterName name)
  (hpattern : pattern = before ++ (VariableTag.source name none ++ after)) {span : Span Nat}
  {opening closing : Char} (hfenced : IsFenced pattern span opening closing)

include hname hpattern hfenced

/-- No tag ends inside the counter. -/
theorem stop_le_or_of_isFenced (hclosing : closing.isAlpha = false) :
    span.stop ≤ before.length ∨ before.length + 11 ≤ span.stop := by
  obtain ⟨hfirst, hsecond, -, -⟩ := braces_of_counter hname hpattern
  have hletters {i : Nat} {c : Char} (hlow : before.length + 2 ≤ i)
      (hhigh : i < before.length + 9) (hc : pattern[i]? = some c) : c.isAlpha = true :=
    isAlpha_of_counter hname hpattern hlow hhigh hc
  have hlength := hfenced.length
  have hbrace := hfenced.last
  by_contra hinside
  by_cases hopen : span.stop - 1 < before.length + 2
  · have hcases : span.stop - 1 = before.length ∨ span.stop - 1 = before.length + 1 := by omega
    cases hcases with
    | inl h =>
      rw [h, hfirst] at hbrace
      simp at hbrace
    | inr h =>
      rw [h, hsecond] at hbrace
      simp at hbrace
  · by_cases hmiddle : span.stop - 1 < before.length + 9
    · have halpha := hletters (by omega) hmiddle hbrace
      revert halpha
      decide
    · have halpha := hletters (by omega) (by omega) hfenced.third
      rw [hclosing] at halpha
      simp at halpha

/-- No tag starts inside the counter. -/
theorem le_start_of_isFenced (hopening : opening.isAlpha = false)
    (hstart : before.length < span.start) : before.length + 11 ≤ span.start := by
  obtain ⟨-, -, hninth, htenth⟩ := braces_of_counter hname hpattern
  have hletters {i : Nat} {c : Char} (hlow : before.length + 2 ≤ i)
      (hhigh : i < before.length + 9) (hc : pattern[i]? = some c) : c.isAlpha = true :=
    isAlpha_of_counter hname hpattern hlow hhigh hc
  have hbrace := hfenced.first
  by_contra hinside
  by_cases hopen : span.start = before.length + 1
  · have halpha := hletters (by omega) (by omega) hfenced.second
    rw [hopening] at halpha
    simp at halpha
  · by_cases hmiddle : span.start < before.length + 9
    · have halpha := hletters (by omega) hmiddle hbrace
      revert halpha
      decide
    · have hcases : span.start = before.length + 9 ∨ span.start = before.length + 10 := by omega
      cases hcases with
      | inl h =>
        rw [h, hninth] at hbrace
        simp at hbrace
      | inr h =>
        rw [h, htenth] at hbrace
        simp at hbrace

/-- A tag that is fenced by braces and does not reach over the counter is apart from it,
or it starts where the counter does. -/
theorem apart_of_isFenced (hopening : opening.isAlpha = false) (hclosing : closing.isAlpha = false)
    (hlonger : ¬span.IsLonger ⟨before.length, before.length + 11⟩) :
    span.stop ≤ before.length ∨ before.length + 11 ≤ span.start ∨
      span.start = before.length ∧ opening = '\x7b' := by
  rcases Nat.lt_trichotomy span.start before.length with hlt | heq | hgt
  · cases stop_le_or_of_isFenced hname hpattern hfenced hclosing with
    | inl hstop => exact Or.inl hstop
    | inr hstop =>
      apply absurd _ hlonger
      refine ⟨Nat.le_of_lt hlt, hstop, ?_⟩
      rintro rfl
      exact Nat.lt_irrefl _ hlt
  · obtain ⟨-, hsecond, -, -⟩ := braces_of_counter hname hpattern
    have hopen := hfenced.second
    rw [heq, hsecond] at hopen
    exact Or.inr (Or.inr ⟨heq, (Option.some.inj hopen).symm⟩)
  · exact Or.inr (Or.inl (le_start_of_isFenced hname hpattern hfenced hopening hgt))

end

/-! ### The counter counts -/

/-- The occurrence of the counter as a tag of the title. -/
def counterOccurrence (before : Text) : Occurrence TitleTag :=
  ⟨⟨before.length, before.length + 11⟩, .variable ⟨Variable.counter.name, none⟩⟩

section

variable (hname : IsCounterName name)
  (hpattern : pattern = before ++ (VariableTag.source name none ++ after))
  (hvariables : ∀ found ∈ variableTags pattern,
    ¬found.span.IsLonger ⟨before.length, before.length + 11⟩)
  (hprompts : ∀ found ∈ promptTags pattern,
    ¬found.span.IsLonger ⟨before.length, before.length + 11⟩)

include hname hpattern

theorem recognise_counter :
    VariableTag.recognise (pattern.drop before.length) =
      some (11, ⟨Variable.counter.name, none⟩) := by
  rw [hpattern, List.drop_left]
  exact hname.recognise after

include hvariables

/-- A variable tag is the counter or apart from it. -/
theorem eq_or_apart_of_mem_variableTags {found : Occurrence VariableTag}
    (h : found ∈ variableTags pattern) :
    found = ⟨⟨before.length, before.length + 11⟩, ⟨Variable.counter.name, none⟩⟩ ∨
      found.span.stop ≤ before.length ∨ before.length + 11 ≤ found.span.start := by
  rcases apart_of_isFenced hname hpattern (isFenced_of_mem_variableTags h) (by decide) (by decide)
    (hvariables found h) with hstop | hstart | ⟨hsame, -⟩
  · exact Or.inr (Or.inl hstop)
  · exact Or.inr (Or.inr hstart)
  · left
    obtain ⟨-, horder, hfound⟩ := recognise_of_mem_occurrences h
    rw [hsame, recognise_counter hname hpattern] at hfound
    obtain ⟨hlength, hvalue⟩ := Prod.mk.inj (Option.some.inj hfound)
    obtain ⟨⟨start, stop⟩, value⟩ := found
    dsimp only at hsame hlength hvalue horder
    obtain rfl : stop = before.length + 11 := by omega
    rw [hsame, hvalue]

theorem mem_variableTags_counter :
    ⟨⟨before.length, before.length + 11⟩, ⟨Variable.counter.name, none⟩⟩ ∈ variableTags pattern := by
  have hinside : before.length < pattern.length := by
    rw [hpattern, List.length_append, List.length_append, hname.length_source]
    omega
  apply mem_occurrences hinside (recognise_counter hname hpattern)
  intro found hfound hstart
  rcases eq_or_apart_of_mem_variableTags hname hpattern hvariables hfound with rfl | hstop | hbehind
  · exact absurd hstart (Nat.lt_irrefl _)
  · exact hstop
  · omega

include hprompts

theorem eq_or_apart_of_mem_titleTags {withPrompts : Bool} {tag : Occurrence TitleTag}
    (h : tag ∈ titleTags pattern withPrompts) :
    tag = counterOccurrence before ∨ tag.span.stop ≤ before.length ∨
      before.length + 11 ≤ tag.span.start := by
  rcases mem_titleTags_iff.1 h with ⟨found, hfound, rfl⟩ | ⟨-, found, hfound, rfl⟩
  · rcases eq_or_apart_of_mem_variableTags hname hpattern hvariables hfound with rfl | happart
    · exact Or.inl rfl
    · exact Or.inr happart
  · rcases apart_of_isFenced hname hpattern (isFenced_of_mem_promptTags hfound) (by decide)
      (by decide) (hprompts found hfound) with hstop | hstart | ⟨-, hbrace⟩
    · exact Or.inr (Or.inl hstop)
    · exact Or.inr (Or.inr hstart)
    · simp at hbrace

/-- A counter that stands free is one of the tags that count. -/
theorem exists_chosenTitleTags_counter (withPrompts : Bool) :
    ∃ earlier later,
      chosenTitleTags pattern withPrompts = earlier ++ counterOccurrence before :: later ∧
        (∀ other ∈ earlier, other.span.stop ≤ before.length) ∧
        ∀ other ∈ later, before.length + 11 ≤ other.span.start := by
  have hmem : counterOccurrence before ∈ titleTags pattern withPrompts := by
    rw [mem_titleTags_iff]
    exact Or.inl ⟨_, mem_variableTags_counter hname hpattern hvariables, rfl⟩
  apply exists_chosenTitleTags hmem
  intro other hother
  exact eq_or_apart_of_mem_titleTags hname hpattern hvariables hprompts hother

end

/-! ### Sides without tags -/

theorem not_recognised_of_hasTags (h : hasTags text = false) {offset : Nat}
    (hoffset : offset < text.length) :
    VariableTag.recognise (text.drop offset) = none ∧
      PromptTag.recognise (text.drop offset) = none := by
  rw [hasTags, Bool.or_eq_false_iff, Bool.not_eq_false', Bool.not_eq_false',
    List.isEmpty_iff, List.isEmpty_iff] at h
  exact ⟨recognise_of_occurrences_eq_nil h.1 hoffset, recognise_of_occurrences_eq_nil h.2 hoffset⟩

/-- A tag of a title is recognised in its place. -/
theorem exists_recognise_of_mem_titleTags {withPrompts : Bool} {tag : Occurrence TitleTag}
    (h : tag ∈ titleTags pattern withPrompts) :
    ∃ length, tag.span.stop = tag.span.start + length ∧
      ((∃ value, VariableTag.recognise (pattern.drop tag.span.start) = some (length, value)) ∨
        ∃ value, PromptTag.recognise (pattern.drop tag.span.start) = some (length, value)) := by
  rcases mem_titleTags_iff.1 h with ⟨found, hfound, rfl⟩ | ⟨-, found, hfound, rfl⟩
  · obtain ⟨-, horder, hvalue⟩ := recognise_of_mem_occurrences hfound
    exact ⟨_, (Nat.add_sub_cancel' horder).symm, Or.inl ⟨_, hvalue⟩⟩
  · obtain ⟨-, horder, hvalue⟩ := recognise_of_mem_occurrences hfound
    exact ⟨_, (Nat.add_sub_cancel' horder).symm, Or.inr ⟨_, hvalue⟩⟩

/-- No tag lies in a text without tags. -/
theorem not_mem_of_hasTags_before {rest : Text} {withPrompts : Bool} {tag : Occurrence TitleTag}
    (h : hasTags before = false) (hmem : tag ∈ titleTags (before ++ rest) withPrompts) :
    ¬tag.span.stop ≤ before.length := by
  intro hstop
  have horder := start_lt_stop_of_mem_titleTags hmem
  obtain ⟨length, hlength, hvalue⟩ := exists_recognise_of_mem_titleTags hmem
  obtain ⟨hvariable, hprompt⟩ :=
    not_recognised_of_hasTags h (Nat.lt_of_lt_of_le horder hstop)
  have hfits : length ≤ (before.drop tag.span.start).length := by
    rw [List.length_drop]
    omega
  rw [List.drop_append_of_le_length (by omega)] at hvalue
  rcases hvalue with ⟨value, hvalue⟩ | ⟨value, hvalue⟩
  · rw [VariableTag.isLocal_recognise _ _ _ _ hvalue hfits] at hvariable
    simp at hvariable
  · rw [PromptTag.isLocal_recognise _ _ _ _ hvalue hfits] at hprompt
    simp at hprompt

theorem not_mem_of_hasTags_after {front : Text} {withPrompts : Bool} {tag : Occurrence TitleTag}
    (h : hasTags after = false) (hmem : tag ∈ titleTags (front ++ after) withPrompts) :
    ¬front.length ≤ tag.span.start := by
  intro hstart
  obtain ⟨length, hlength, hvalue⟩ := exists_recognise_of_mem_titleTags hmem
  have hinside : tag.span.start < (front ++ after).length := by
    rcases mem_titleTags_iff.1 hmem with ⟨found, hfound, rfl⟩ | ⟨-, found, hfound, rfl⟩
    · exact (recognise_of_mem_occurrences hfound).1
    · exact (recognise_of_mem_occurrences hfound).1
  obtain ⟨offset, hoffset⟩ := Nat.exists_eq_add_of_le hstart
  rw [List.length_append] at hinside
  have hdrop : (front ++ after).drop tag.span.start = after.drop offset := by
    rw [hoffset, ← List.drop_drop, List.drop_left]
  have hnone := not_recognised_of_hasTags h (show offset < after.length by omega)
  rw [hdrop, hnone.1, hnone.2] at hvalue
  rcases hvalue with ⟨value, hvalue⟩ | ⟨value, hvalue⟩ <;> simp at hvalue

end NoteTemplate
