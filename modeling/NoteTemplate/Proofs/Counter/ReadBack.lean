import NoteTemplate.Proofs.Counter.Place
import NoteTemplate.Proofs.NamePattern.Capture
import NoteTemplate.Proofs.Title.Cleaning
import NoteTemplate.Proofs.Title.Walk

/-!
# Reading a counter back

A counter that stands free is shown as its numeral, between what is shown for the two sides
of the pattern.  A side without tags is shown as it is, so the pattern for file names finds
the numeral again.  Where a side is left open, digits that stand there directly beside the
numeral are read with it, and the number that is read is not smaller.
-/

namespace NoteTemplate

variable {settings : DateTimeSettings} {context : RenderContext} {prompts : List Prompt}
  {values : PromptValues} {mode : FillMode} {pattern title before after : Text} {number : Nat}

/-- How the counter is read back from a name: exactly when both sides are fixed, and
otherwise with the digits that stand beside it on the open side. -/
def CounterPattern.ReadsBack (found : CounterPattern) (name : Text) (number : Nat) : Prop :=
  match found.strategy with
  | .bothSides => found.pattern.counterIn? name = some number
  | .before => ∃ more, (∀ c ∈ more, isDigit c = true) ∧
      found.pattern.match? name = some (some (decimal number ++ more)) ∧
      ((decimal number ++ more).length ≤ maxNumeralDigits →
        ∃ value, found.pattern.counterIn? name = some value ∧ number ≤ value)
  | .after => ∃ more, (∀ c ∈ more, isDigit c = true) ∧
      found.pattern.match? name = some (some (more ++ decimal number)) ∧
      ((more ++ decimal number).length ≤ maxNumeralDigits →
        ∃ value, found.pattern.counterIn? name = some value ∧ number ≤ value)
  | .everyPart => True

/-! ### What is shown for the counter -/

theorem fills_decimal (n : Nat) : CharSet.digit.Fills 1 none (decimal n) where
  least_le := List.length_pos_iff.2 (decimal_ne_nil n)
  le_most := by simp
  holds _ hc := isDigit_of_mem_digits hc

theorem renderTag_counter [LocalZone] (hcontext : context.counter = some (number : Int)) :
    context.renderTag ⟨Variable.counter.name, none⟩ = some <$> counterText (number : Int) := by
  have hlower : Text.lower Variable.counter.name = Variable.counter.name :=
    IsCounterName.lower (by unfold IsCounterName; decide)
  rw [RenderContext.renderTag, RenderContext.renderNamed, hlower, Variable.ofName?_name]
  simp [RenderContext.render, hcontext]

theorem piece_counter [LocalZone] (hcontext : context.counter = some (number : Int)) {source : Text}
    {piece : TitlePiece}
    (h : (TitleTag.variable ⟨Variable.counter.name, none⟩).piece context prompts source =
      .ok piece) :
    piece = .literal (decimal number) ∧ (decimal number).length ≤ maxNumeralDigits := by
  rw [TitleTag.piece, renderTag_counter hcontext] at h
  cases hshown : counterText (number : Int) with
  | error failure =>
    rw [hshown] at h
    simp [bind, Except.bind, Functor.map, Except.map] at h
  | ok shown =>
    obtain ⟨rfl, hlength⟩ := counterText_natCast hshown
    rw [hshown] at h
    simp only [bind, Except.bind, Functor.map, Except.map, pure, Except.pure, Except.ok.injEq,
      Option.getD_some] at h
    exact ⟨h.symm, hlength⟩

/-- The numeral of a counter that stands free parts the title. -/
theorem exists_shown_of_render [LocalZone] (hcut : cutAtCounter? pattern = some (before, after))
    (hfree : CounterStandsFree pattern) (hcontext : context.counter = some (number : Int))
    (hrender : renderTitle mode context prompts values pattern = .ok title) :
    ∃ front behind, title = front ++ (decimal number ++ behind) ∧
      (decimal number).length ≤ maxNumeralDigits ∧ (hasTags before = false → front = before) ∧
      (hasTags after = false → behind = after) := by
  obtain ⟨name, hname, hpattern, hhead⟩ := exists_of_cutAtCounter? hcut
  obtain ⟨hvariables, hprompts⟩ := hfree _ hhead
  obtain ⟨pieces, hpieces, rfl⟩ := renderTitle_iff.1 hrender
  obtain ⟨earlier, later, hchosen, hearlier, hlater⟩ :=
    exists_chosenTitleTags_counter hname hpattern hvariables hprompts !prompts.isEmpty
  have hplaced := arePlaced_chosenTitleTags pattern !prompts.isEmpty
  have hmem {other : Occurrence TitleTag} (h : other ∈ earlier ∨ other ∈ later) :
      other ∈ titleTags pattern !prompts.isEmpty := by
    apply mem_titleTags_of_mem_chosen
    rw [hchosen, List.mem_append, List.mem_cons]
    exact h.imp_right Or.inr
  rw [titlePieces, hchosen] at hpieces
  rw [hchosen] at hplaced
  obtain ⟨front, source, piece, behind, rfl, hpiece, hbehind, hfront⟩ :=
    exists_pieces_of_append hplaced hpieces
  obtain ⟨rfl, hlength⟩ := piece_counter hcontext hpiece
  refine ⟨front.flatMap (TitlePiece.fill mode values), behind.flatMap (TitlePiece.fill mode values),
    ?_, hlength, ?_, ?_⟩
  · rw [List.flatMap_append, List.flatMap_cons]
    rfl
  · intro hbefore
    have hnone : earlier = [] := by
      rw [List.eq_nil_iff_forall_not_mem]
      intro other hother
      have hother' := hmem (Or.inl hother)
      rw [hpattern] at hother'
      exact not_mem_of_hasTags_before hbefore hother' (hearlier other hother)
    rw [hfront hnone, hpattern]
    simp [TitlePiece.fill, counterOccurrence]
  · intro hafter
    have hnone : later = [] := by
      rw [List.eq_nil_iff_forall_not_mem]
      intro other hother
      have hother' := hmem (Or.inr hother)
      have hlength : (before ++ VariableTag.source name none).length = before.length + 11 := by
        rw [List.length_append, hname.length_source]
      rw [hpattern, ← List.append_assoc] at hother'
      apply not_mem_of_hasTags_after hafter hother'
      rw [hlength]
      exact hlater other hother
    have hdrop : pattern.drop (before.length + 11) = after := by
      rw [hpattern, ← List.drop_drop, List.drop_left, ← hname.length_source, List.drop_left]
    rw [hnone, titlePiecesFrom_nil] at hbehind
    obtain rfl := Except.ok.inj hbehind
    simp only [counterOccurrence, Nat.sub_zero, hdrop]
    simp [TitlePiece.fill]

/-! ### Digits beside the counter -/

theorem exists_digits_front (text : Text) :
    ∃ more rest, text = more ++ rest ∧ (∀ c ∈ more, isDigit c = true) ∧
      ∀ c ∈ rest.head?, isDigit c = false := by
  induction text with
  | nil => exact ⟨[], [], rfl, by simp, by simp⟩
  | cons c text ih =>
    cases hc : isDigit c with
    | false => exact ⟨[], c :: text, rfl, by simp, by simp [hc]⟩
    | true =>
      obtain ⟨more, rest, rfl, hmore, hrest⟩ := ih
      refine ⟨c :: more, rest, rfl, ?_, hrest⟩
      intro d hd
      rcases List.mem_cons.1 hd with rfl | hd
      · exact hc
      · exact hmore d hd

theorem exists_digits_behind (text : Text) :
    ∃ front more, text = front ++ more ∧ (∀ c ∈ more, isDigit c = true) ∧
      ∀ c ∈ front.getLast?, isDigit c = false := by
  obtain ⟨more, rest, htext, hmore, hrest⟩ := exists_digits_front text.reverse
  refine ⟨rest.reverse, more.reverse, ?_, ?_, ?_⟩
  · rw [← List.reverse_append, ← htext, List.reverse_reverse]
  · intro c hc
    exact hmore c (List.mem_reverse.1 hc)
  · rw [List.getLast?_reverse]
    exact hrest

theorem counterIn?_of_match? {found : NamePattern} {name digits : Text}
    (h : found.match? name = some (some digits)) (hlength : digits.length ≤ maxNumeralDigits) :
    found.counterIn? name = some (digitsValue digits) := by
  rw [NamePattern.counterIn?, h]
  exact if_pos hlength

namespace CounterPattern

variable {front behind : Text}

theorem readsBack_bothSides (before after : Text)
    (hlength : (decimal number).length ≤ maxNumeralDigits) :
    ReadsBack ⟨literalPattern before ++ .counter :: literalPattern after, .bothSides⟩
      (cleanCharacters before ++ (decimal number ++ cleanCharacters after)) number := by
  have hmatch := NamePattern.match?_between (cleanCharacters before) (cleanCharacters after)
    (fills_decimal number)
  have hvalue := counterIn?_of_match? hmatch hlength
  rwa [digitsValue_decimal] at hvalue

theorem readsBack_before (before behind : Text) :
    ReadsBack ⟨literalPattern before ++ [.counter, .anything], .before⟩
      (cleanCharacters before ++ (decimal number ++ cleanCharacters behind)) number := by
  obtain ⟨more, rest, hbehind, hmore, hrest⟩ := exists_digits_front (cleanCharacters behind)
  have hline : '\n' ∉ rest := by
    intro hmem
    apply newline_notMem_cleanCharacters behind
    rw [hbehind]
    exact List.mem_append_right _ hmem
  have hmatch := NamePattern.match?_behind (cleanCharacters before) (fills_decimal number) hmore
    hrest hline
  rw [← hbehind] at hmatch
  refine ⟨more, hmore, hmatch, ?_⟩
  intro hlength
  refine ⟨_, counterIn?_of_match? hmatch hlength, ?_⟩
  calc number = digitsValue (decimal number) := (digitsValue_decimal number).symm
    _ ≤ digitsValue (decimal number ++ more) := le_digitsValue_append_left _ _

theorem readsBack_after (front after : Text) :
    ReadsBack ⟨.gap :: .counter :: literalPattern after, .after⟩
      (cleanCharacters front ++ (decimal number ++ cleanCharacters after)) number := by
  obtain ⟨start, more, hfront, hmore, hstart⟩ := exists_digits_behind (cleanCharacters front)
  have hname : cleanCharacters front ++ (decimal number ++ cleanCharacters after) =
      start ++ (more ++ decimal number ++ cleanCharacters after) := by
    rw [hfront, List.append_assoc, List.append_assoc]
  have hline : '\n' ∉ start ++ (more ++ decimal number ++ cleanCharacters after) := by
    rw [← hname, ← cleanCharacters_decimal, ← cleanCharacters_append, ← cleanCharacters_append]
    exact newline_notMem_cleanCharacters _
  have hmatch := NamePattern.match?_before (fills_decimal number) hmore hstart hline
  rw [← hname] at hmatch
  refine ⟨more, hmore, hmatch, ?_⟩
  intro hlength
  refine ⟨_, counterIn?_of_match? hmatch hlength, ?_⟩
  calc number = digitsValue (decimal number) := (digitsValue_decimal number).symm
    _ ≤ digitsValue (more ++ decimal number) := le_digitsValue_append_right _ _

end CounterPattern

section

variable (settings) (hcut : cutAtCounter? pattern = some (before, after))

include hcut

theorem counterPattern?_bothSides (hbefore : hasTags before = false)
    (hafter : hasTags after = false) :
    counterPattern? settings pattern =
      .ok (some ⟨literalPattern before ++ .counter :: literalPattern after, .bothSides⟩) := by
  simp [counterPattern?, hcut, hbefore, hafter]

theorem counterPattern?_before (hbefore : hasTags before = false) (hafter : hasTags after = true) :
    counterPattern? settings pattern =
      .ok (some ⟨literalPattern before ++ [.counter, .anything], .before⟩) := by
  simp [counterPattern?, hcut, hbefore, hafter]

theorem counterPattern?_after (hbefore : hasTags before = true) (hafter : hasTags after = false) :
    counterPattern? settings pattern =
      .ok (some ⟨.gap :: .counter :: literalPattern after, .after⟩) := by
  simp [counterPattern?, hcut, hbefore, hafter]

theorem strategy_everyPart {found : CounterPattern} (hbefore : hasTags before = true)
    (hafter : hasTags after = true)
    (hfound : counterPattern? settings pattern = .ok (some found)) :
    found.strategy = .everyPart := by
  simp only [counterPattern?, hcut, hbefore, hafter] at hfound
  cases hparts : partsPattern settings pattern with
  | error failure => simp [hparts, bind, Except.bind] at hfound
  | ok parts =>
    rw [hparts] at hfound
    obtain rfl := Option.some.inj (Except.ok.inj hfound)
    rfl

end

/-- A numeral between what is shown for the two sides is read back, when one side has no tags
and so is shown as it is. -/
theorem exists_readsBack_of_sides (settings : DateTimeSettings)
    (hcut : cutAtCounter? pattern = some (before, after))
    (hsides : hasTags before = false ∨ hasTags after = false)
    (hlength : (decimal number).length ≤ maxNumeralDigits) {front behind : Text}
    (hfront : hasTags before = false → front = before)
    (hbehind : hasTags after = false → behind = after) :
    ∃ found, counterPattern? settings pattern = .ok (some found) ∧
      found.strategy ≠ .everyPart ∧
      found.ReadsBack (cleanCharacters front ++ (decimal number ++ cleanCharacters behind))
        number := by
  cases hbefore : hasTags before with
  | false =>
    rw [hfront hbefore]
    cases hafter : hasTags after with
    | false =>
      rw [hbehind hafter]
      exact ⟨_, counterPattern?_bothSides settings hcut hbefore hafter, by simp,
        CounterPattern.readsBack_bothSides _ _ hlength⟩
    | true =>
      exact ⟨_, counterPattern?_before settings hcut hbefore hafter, by simp,
        CounterPattern.readsBack_before _ _⟩
  | true =>
    have hafter : hasTags after = false := hsides.resolve_left (by simp [hbefore])
    rw [hbehind hafter]
    exact ⟨_, counterPattern?_after settings hcut hbefore hafter, by simp,
      CounterPattern.readsBack_after _ _⟩

/-- A pattern with a side without tags reads the counter of a shown title back, when
tidying the name changed no more than its characters. -/
theorem exists_readsBack_of_render [LocalZone] (settings : DateTimeSettings)
    (hcut : cutAtCounter? pattern = some (before, after)) (hfree : CounterStandsFree pattern)
    (hsides : hasTags before = false ∨ hasTags after = false)
    (hcontext : context.counter = some (number : Int))
    (hrender : renderTitle mode context prompts values pattern = .ok title)
    (hclean : cleanFilename title = cleanCharacters title) :
    ∃ found, counterPattern? settings pattern = .ok (some found) ∧
      found.strategy ≠ .everyPart ∧ found.ReadsBack (cleanFilename title) number := by
  obtain ⟨front, behind, rfl, hlength, hfront, hbehind⟩ :=
    exists_shown_of_render hcut hfree hcontext hrender
  have hname : cleanFilename (front ++ (decimal number ++ behind)) =
      cleanCharacters front ++ (decimal number ++ cleanCharacters behind) := by
    rw [hclean, cleanCharacters_append, cleanCharacters_append, cleanCharacters_decimal]
  rw [hname]
  exact exists_readsBack_of_sides settings hcut hsides hlength hfront hbehind

/-- The seventh title of a minute in the year 2024. -/
def seventhContext : RenderContext where
  settings := .default
  instant := ⟨⟨2024, 3, 5, by decide⟩, ⟨14, 7, 9, 0, by decide⟩, none, false⟩
  counter := some 7
  place := .filename

section

attribute [local instance] LocalZone.utc

/-- The year stands directly in front of the counter and is read with it. -/
theorem exists_readsBack_of_year :
    cutAtCounter? "\x7b\x7byear\x7d\x7d\x7b\x7bCounter\x7d\x7d of 9".toList =
        some ("\x7b\x7byear\x7d\x7d".toList, " of 9".toList) ∧
      CounterStandsFree "\x7b\x7byear\x7d\x7d\x7b\x7bCounter\x7d\x7d of 9".toList ∧
      hasTags " of 9".toList = false ∧
      renderTitle .final seventhContext [] []
        "\x7b\x7byear\x7d\x7d\x7b\x7bCounter\x7d\x7d of 9".toList = .ok "20247 of 9".toList ∧
      cleanFilename "20247 of 9".toList = cleanCharacters "20247 of 9".toList ∧
      ∃ found, counterPattern? .default
          "\x7b\x7byear\x7d\x7d\x7b\x7bCounter\x7d\x7d of 9".toList = .ok (some found) ∧
        found.strategy ≠ .everyPart ∧ found.ReadsBack (cleanFilename "20247 of 9".toList) 7 := by
  have hcut : cutAtCounter? "\x7b\x7byear\x7d\x7d\x7b\x7bCounter\x7d\x7d of 9".toList =
      some ("\x7b\x7byear\x7d\x7d".toList, " of 9".toList) := by
    decide +kernel
  have hfree : CounterStandsFree "\x7b\x7byear\x7d\x7d\x7b\x7bCounter\x7d\x7d of 9".toList := by
    decide +kernel
  have hafter : hasTags " of 9".toList = false := by decide +kernel
  have hrender : renderTitle .final seventhContext [] []
      "\x7b\x7byear\x7d\x7d\x7b\x7bCounter\x7d\x7d of 9".toList = .ok "20247 of 9".toList := by
    rw [renderTitle, titlePieces, List.isEmpty_nil, Bool.not_true, chosenTitleTags_false]
    decide +kernel
  have hclean : cleanFilename "20247 of 9".toList = cleanCharacters "20247 of 9".toList := by
    decide +kernel
  exact ⟨hcut, hfree, hafter, hrender, hclean,
    exists_readsBack_of_render .default hcut hfree (Or.inr hafter) rfl hrender hclean⟩

end

end NoteTemplate
