import NoteTemplate.Editor.Context
import NoteTemplate.Proofs.Text.Ascii
import NoteTemplate.Proofs.Text.Split
import NoteTemplate.Proofs.Text.Trim

/-!
# What stands in front of the query

In the last opening of a prompt the query is what will be replaced, and the text between the
opening and the query is kept.  Which texts are kept is said here without the readers, with one
case for each kind of context (`Typing.Keeps`); behind an opening that a reader takes there is
no other percent sign.
-/

namespace NoteTemplate

namespace Typing

variable {line opened text before rest name valueType query word kept : Text} {c : Char}
  {context : TypingContext}

/-! ### Characters -/

/-- A character that neither parts a prompt nor can be trimmed from its parts. -/
def isPlainChar (c : Char) : Bool :=
  !isBlank c && c ≠ ':' && c ≠ '%' && c ≠ ',' && c ≠ '?' && c ≠ ')'

/-- A text of such characters. -/
def IsPlain (text : Text) : Prop := ∀ c ∈ text, isPlainChar c = true

theorem isPlainChar_of_isPresetChar (h : isPresetChar c = true) : isPlainChar c = true := by
  have hascii : ∀ n < 128, isPresetChar (Char.ofNat n) = true →
      isPlainChar (Char.ofNat n) = true := by
    decide +kernel
  have hspecial : ∀ c ∈ ['ı', 'İ', 'ſ', '\u212a'], isPlainChar c = true :=
    List.all_eq_true.1 (by decide +kernel)
  by_cases hc : c.toNat < 128
  · exact forall_ascii (p := fun c => isPresetChar c = true → isPlainChar c = true) hascii hc h
  · have hnotAlphanum : c.isAlphanum = false := by
      rw [Bool.eq_false_iff]
      exact fun halphanum => hc (toNat_lt_of_isAlphanum halphanum)
    have hnotDash : c ≠ '-' := by
      rintro rfl
      exact hc (by decide)
    rw [Char.isAlphanum, Bool.or_eq_false_iff] at hnotAlphanum
    apply hspecial
    simpa [isPresetChar, isAnyCaseLetter, hnotAlphanum, hnotDash, or_assoc] using h

theorem isPlainChar_of_isAnyCaseLetter (h : isAnyCaseLetter c = true) : isPlainChar c = true := by
  apply isPlainChar_of_isPresetChar
  simp [isPresetChar, h]

theorem isPlainChar_of_sameLetter {letter : Char} (hletter : letter.isAlpha = true)
    (h : sameLetter letter c = true) : isPlainChar c = true := by
  have hascii : ∀ n < 128, (Char.ofNat n).toLower.isAlpha = true →
      isPlainChar (Char.ofNat n) = true := by
    decide +kernel
  have hspecial : ∀ c ∈ ['ı', 'İ'], isPlainChar c = true :=
    List.all_eq_true.1 (by decide +kernel)
  simp only [sameLetter, Bool.or_eq_true, Bool.and_eq_true, decide_eq_true_eq] at h
  rcases h with rfl | ⟨-, h⟩
  · have hcode : c.toLower.toNat < 128 :=
      toNat_lt_of_isAlphanum (by simp [Char.isAlphanum, hletter])
    exact forall_ascii (p := fun c => c.toLower.isAlpha = true → isPlainChar c = true) hascii
      (toNat_lt_of_toLower hcode) hletter
  · exact hspecial c (by simpa using h)

theorem IsPlain.notMem (h : IsPlain text) (hc : isPlainChar c = false) : c ∉ text := by
  intro hmem
  rw [h c hmem] at hc
  cases hc

theorem notMem_of_isBlankText (h : Text.isBlankText text = true) (hc : isBlank c = false) :
    c ∉ text := by
  intro hmem
  rw [List.all_eq_true.1 h c hmem] at hc
  cases hc

/-! ### Kept texts -/

/-- The marks that can follow an opening. -/
def IsMark (mark : Text) : Prop := mark = [] ∨ mark = ['?']

/-- What can stand between an opening and the first colon. -/
structure IsNamePart (before : Text) : Prop where
  ne_nil : before ≠ []
  no_colon : ':' ∉ before
  no_percent : '%' ∉ before

/-- What was picked in front of a preset, and whether it was. -/
inductive IsPicked : Text → Bool → Prop
  | nothing : IsPicked [] false
  | first {first : Text} (hne : first ≠ []) (hplain : IsPlain first) :
      IsPicked (first ++ [',']) true

/-- The text behind the opening that stays in front of the query. -/
inductive Keeps : TypingContext → Text → Prop
  | opening {mark blanks : Text} {start : Nat} (hmark : IsMark mark)
      (hblanks : Text.isBlankText blanks = true) :
      Keeps ⟨.opening, [], start, none, none, none, false⟩ (mark ++ blanks)
  | name {mark blanks query : Text} {start : Nat} (hmark : IsMark mark) (hne : blanks ≠ [])
      (hblanks : Text.isBlankText blanks = true) (hcolon : ':' ∉ query) (hpercent : '%' ∉ query) :
      Keeps ⟨.name, query, start, none, none, none, false⟩ (mark ++ blanks)
  | valueType {before blanks query name : Text} {start : Nat} (hbefore : IsNamePart before)
      (hblanks : Text.isBlankText blanks = true) (hquery : IsPlain query) :
      Keeps ⟨.valueType, query, start, some name, none, none, false⟩ (before ++ ':' :: blanks)
  | format {before word blanks picked query name : Text} {start : Nat} {afterComma : Bool}
      (hbefore : IsNamePart before) (hword : IsPlain word)
      (hblanks : Text.isBlankText blanks = true) (hpicked : IsPicked picked afterComma)
      (hquery : IsPlain query) :
      Keeps ⟨.format, query, start, some name, some (Text.lower word), none, afterComma⟩
        (before ++ ':' :: (word ++ ':' :: (blanks ++ picked)))

/-- Behind `front` a prompt is opened, and `kept` stands between the opening and the query. -/
structure IsTypedBehind (text : Text) (context : TypingContext) (front kept : Text) : Prop where
  text_eq : text = front ++ '\x7b' :: '%' :: (kept ++ context.query)
  start_eq : context.start = (front ++ '\x7b' :: '%' :: kept).length
  keeps : Keeps context kept

theorem IsMark.percent_notMem {mark : Text} (h : IsMark mark) : '%' ∉ mark := by
  rcases h with rfl | rfl <;> simp

theorem IsPicked.percent_notMem {picked : Text} {afterComma : Bool}
    (h : IsPicked picked afterComma) : '%' ∉ picked := by
  cases h with
  | nothing => exact List.not_mem_nil
  | first _ hplain =>
    have hfirst := hplain.notMem (c := '%') (by decide)
    simpa using hfirst

theorem Keeps.percent_notMem (h : Keeps context kept) : '%' ∉ kept ++ context.query := by
  have hblank {blanks : Text} (h : Text.isBlankText blanks = true) : '%' ∉ blanks :=
    notMem_of_isBlankText h (by decide)
  have hplain {text : Text} (h : IsPlain text) : '%' ∉ text := h.notMem (by decide)
  cases h with
  | opening hmark hblanks => simp [hmark.percent_notMem, hblank hblanks]
  | name hmark _ hblanks _ hpercent => simp [hmark.percent_notMem, hblank hblanks, hpercent]
  | valueType hbefore hblanks hquery =>
    simp [hbefore.no_percent, hblank hblanks, hplain hquery]
  | format hbefore hword hblanks hpicked hquery =>
    simp [hbefore.no_percent, hplain hword, hblank hblanks, hpicked.percent_notMem, hplain hquery]

/-! ### Readers -/

theorem exists_of_mem_openedTexts (h : opened ∈ openedTexts line) :
    ∃ front, line = front ++ '\x7b' :: '%' :: opened := by
  induction line with
  | nil => cases h
  | cons c rest ih =>
    have hlater (h : opened ∈ openedTexts rest) :
        ∃ front, c :: rest = front ++ '\x7b' :: '%' :: opened := by
      obtain ⟨front, rfl⟩ := ih h
      exact ⟨c :: front, rfl⟩
    rw [openedTexts] at h
    split at h
    · next hopening =>
      rcases List.mem_cons.1 h with rfl | h
      · obtain ⟨behind, hbehind⟩ := List.isPrefixOf_iff_prefix.1 hopening
        refine ⟨[], ?_⟩
        rw [← hbehind]
        obtain ⟨-, rfl⟩ := List.cons_eq_cons.1 hbehind
        rfl
      · exact hlater h
    · exact hlater h

/-- What a reader finds in a line it finds behind an opening. -/
theorem exists_of_findSome?_openedTexts {α : Type} {read : Text → Option α} {found : α}
    (h : (openedTexts line).findSome? read = some found) :
    ∃ front opened, line = front ++ '\x7b' :: '%' :: opened ∧ read opened = some found := by
  obtain ⟨opened, hopened, hread⟩ := List.exists_of_findSome?_eq_some h
  obtain ⟨front, hline⟩ := exists_of_mem_openedTexts hopened
  exact ⟨front, opened, hline, hread⟩

theorem exists_of_isOpening (h : isOpening line = true) :
    ∃ front mark blanks, line = front ++ '\x7b' :: '%' :: (mark ++ blanks) ∧ IsMark mark ∧
      Text.isBlankText blanks = true := by
  obtain ⟨blanks, hblanks, hline⟩ := Text.exists_trimRight_append line
  simp only [isOpening, Bool.or_eq_true, List.isSuffixOf_iff_suffix] at h
  rcases h with ⟨front, hfront⟩ | ⟨front, hfront⟩
  · refine ⟨front, [], blanks, ?_, Or.inl rfl, hblanks⟩
    rw [hline, ← hfront]
    simp [tagOpening]
  · refine ⟨front, ['?'], blanks, ?_, Or.inr rfl, hblanks⟩
    rw [hline, ← hfront]
    simp [tagOpening]

theorem exists_of_cutName? (h : cutName? opened = some (name, rest)) :
    ∃ before, IsNamePart before ∧ opened = before ++ ':' :: rest := by
  rw [cutName?] at h
  split at h
  · cases h
  · next before behind hcut =>
    split at h
    · cases h
    · next hpart =>
      obtain ⟨-, rfl⟩ := by simpa using h
      simp only [Bool.or_eq_true, List.isEmpty_iff, List.contains_eq_mem, decide_eq_true_eq,
        not_or] at hpart
      exact ⟨before, ⟨hpart.1, Text.notMem_of_cutAt? hcut, hpart.2⟩, Text.eq_of_cutAt? hcut⟩

theorem isPlain_take_of_startsWithWord (hletters : ∀ letter ∈ word, letter.isAlpha = true)
    (h : startsWithWord word text = true) : IsPlain (text.take word.length) := by
  induction word generalizing text with
  | nil => simp [IsPlain]
  | cons letter word ih =>
    cases text with
    | nil => simp [startsWithWord] at h
    | cons c text =>
      rw [startsWithWord, Bool.and_eq_true] at h
      rw [List.forall_mem_cons] at hletters
      rw [List.length_cons, List.take_succ_cons]
      exact List.forall_mem_cons.2
        ⟨isPlainChar_of_sameLetter hletters.1 h.1, ih hletters.2 h.2⟩

theorem exists_of_cutFormatType? (h : cutFormatType? text = some (valueType, rest)) :
    ∃ word, IsPlain word ∧ valueType = Text.lower word ∧ text = word ++ ':' :: rest := by
  obtain ⟨word, hword, h⟩ := List.exists_of_findSome?_eq_some h
  have hletters : ∀ word ∈ formatTypes, word.all Char.isAlpha = true := by decide
  dsimp only at h
  split at h
  · next hstarts =>
    rw [Bool.and_eq_true, decide_eq_true_eq, List.head?_eq_some_iff] at hstarts
    obtain ⟨hstarts, behind, hbehind⟩ := hstarts
    obtain ⟨rfl, hrest⟩ := by simpa using h
    have hplain := isPlain_take_of_startsWithWord (List.all_eq_true.1 (hletters word hword)) hstarts
    refine ⟨text.take word.length, hplain, rfl, ?_⟩
    have hparts := List.take_append_drop word.length text
    rw [hbehind] at hparts
    rw [← hrest, ← List.drop_drop, hbehind]
    exact hparts.symm
  · cases h

theorem exists_of_typeInside? (h : typeInside? opened = some (name, query)) :
    ∃ before blanks, opened = before ++ ':' :: (blanks ++ query) ∧ IsNamePart before ∧
      Text.isBlankText blanks = true ∧ IsPlain query := by
  obtain ⟨⟨cut, rest⟩, hcut, htype⟩ := Option.bind_eq_some_iff.1 h
  obtain ⟨before, hbefore, hopened⟩ := exists_of_cutName? hcut
  obtain ⟨blanks, hblanks, hrest⟩ := Text.exists_append_trimLeft rest
  dsimp only at htype
  split at htype
  · next hletters =>
    obtain ⟨-, rfl⟩ := by simpa using htype
    refine ⟨before, blanks, by rw [← hrest, hopened], hbefore, hblanks, fun c hc => ?_⟩
    exact isPlainChar_of_isAnyCaseLetter (List.all_eq_true.1 hletters c hc)
  · cases htype

theorem exists_of_presetInside? {afterComma : Bool}
    (h : presetInside? opened = some (name, valueType, query, afterComma)) :
    ∃ before word blanks picked,
      opened = before ++ ':' :: (word ++ ':' :: (blanks ++ picked ++ query)) ∧
      valueType = Text.lower word ∧ IsNamePart before ∧ IsPlain word ∧
      Text.isBlankText blanks = true ∧ IsPicked picked afterComma ∧ IsPlain query := by
  have hplain {text : Text} (h : text.all isPresetChar = true) : IsPlain text :=
    fun c hc => isPlainChar_of_isPresetChar (List.all_eq_true.1 h c hc)
  obtain ⟨⟨cut, rest⟩, hcut, htype⟩ := Option.bind_eq_some_iff.1 h
  obtain ⟨before, hbefore, hopened⟩ := exists_of_cutName? hcut
  obtain ⟨⟨type, detail⟩, hword, hdetail⟩ := Option.bind_eq_some_iff.1 htype
  obtain ⟨word, hplainWord, hlower, hrest⟩ := exists_of_cutFormatType? hword
  obtain ⟨blanks, hblanks, hparts⟩ := Text.exists_append_trimLeft detail
  rw [hopened, hrest]
  dsimp only at hdetail
  split at hdetail
  · next hall =>
    obtain ⟨-, rfl, rfl, rfl⟩ := by simpa using hdetail
    refine ⟨before, word, blanks, [], ?_, hlower, hbefore, hplainWord, hblanks, .nothing,
      hplain hall⟩
    rw [List.append_nil, ← hparts]
  · obtain ⟨⟨first, last⟩, hcomma, hlast⟩ := Option.bind_eq_some_iff.1 hdetail
    dsimp only at hlast
    split at hlast
    · next hall =>
      obtain ⟨-, rfl, rfl, rfl⟩ := by simpa using hlast
      simp only [Bool.and_eq_true, Bool.not_eq_true', List.isEmpty_eq_false_iff] at hall
      refine ⟨before, word, blanks, first ++ [','], ?_, hlower, hbefore, hplainWord, hblanks,
        .first hall.1.1 (hplain hall.1.2), hplain hall.2⟩
      rw [hparts, Text.eq_of_cutAt? hcomma]
      simp
    · cases hlast

theorem exists_of_nameInside? (h : nameInside? opened = some query) :
    ∃ mark blanks, opened = mark ++ (blanks ++ query) ∧ IsMark mark ∧ blanks ≠ [] ∧
      Text.isBlankText blanks = true ∧ ':' ∉ query ∧ '%' ∉ query := by
  obtain ⟨mark, behind, hmark, hopened, hbehind⟩ : ∃ mark behind, IsMark mark ∧
      opened = mark ++ behind ∧
      behind = if opened.head? = some '?' then opened.drop 1 else opened := by
    split
    · next hhead =>
      obtain ⟨rest, rfl⟩ := List.head?_eq_some_iff.1 hhead
      exact ⟨['?'], rest, Or.inr rfl, rfl, rfl⟩
    · exact ⟨[], opened, Or.inl rfl, rfl, rfl⟩
  simp only [nameInside?, ← hbehind] at h
  split at h
  · next hquery =>
    obtain rfl := Option.some.inj h
    obtain ⟨blanks, hblanks, hparts⟩ := Text.exists_append_trimLeft behind
    rw [Bool.and_eq_true, decide_eq_true_eq] at hquery
    have hnotMem (c : Char) (hc : c = ':' ∨ c = '%') : c ∉ Text.trimLeft behind := by
      intro hmem
      have hchar := List.all_eq_true.1 hquery.2 c hmem
      rcases hc with rfl | rfl <;> simp at hchar
    refine ⟨mark, blanks, by rw [← hparts, hopened], hmark, ?_, hblanks,
      hnotMem ':' (Or.inl rfl), hnotMem '%' (Or.inr rfl)⟩
    rintro rfl
    rw [List.nil_append] at hparts
    rw [← hparts] at hquery
    exact absurd hquery.1 (Nat.lt_irrefl _)
  · cases h

end Typing

open Typing

/-! ### The context -/

variable {text line : Text} {context : TypingContext} {cursor : Nat}

/-- Variables and tokens of a format apart, what is typed stands behind an opening. -/
theorem exists_keeps_of_lineContext? (h : lineContext? cursor line = some context) :
    context.kind = .variable ∨ context.kind = .formatToken ∨
      ∃ front kept, line = front ++ '\x7b' :: '%' :: (kept ++ context.query) ∧
        context.start = cursor - context.query.length ∧ Keeps context kept := by
  rw [lineContext?] at h
  dsimp only at h
  split at h
  · obtain rfl := Option.some.inj h
    exact Or.inl rfl
  split at h
  · next hopening =>
    obtain rfl := Option.some.inj h
    obtain ⟨front, mark, blanks, rfl, hmark, hblanks⟩ := exists_of_isOpening hopening
    exact Or.inr (Or.inr ⟨front, mark ++ blanks, by simp, rfl, .opening hmark hblanks⟩)
  split at h
  · obtain rfl := Option.some.inj h
    exact Or.inr (Or.inl rfl)
  split at h
  · next name query hfound =>
    obtain rfl := Option.some.inj h
    obtain ⟨front, opened, rfl, hinside⟩ := exists_of_findSome?_openedTexts hfound
    obtain ⟨before, blanks, rfl, hbefore, hblanks, hquery⟩ := exists_of_typeInside? hinside
    exact Or.inr (Or.inr ⟨front, before ++ ':' :: blanks, by simp, rfl,
      .valueType hbefore hblanks hquery⟩)
  split at h
  · next name valueType query afterComma hfound =>
    obtain rfl := Option.some.inj h
    obtain ⟨front, opened, rfl, hinside⟩ := exists_of_findSome?_openedTexts hfound
    obtain ⟨before, word, blanks, picked, rfl, rfl, hbefore, hword, hblanks, hpicked, hquery⟩ :=
      exists_of_presetInside? hinside
    exact Or.inr (Or.inr ⟨front, before ++ ':' :: (word ++ ':' :: (blanks ++ picked)), by simp,
      rfl, .format hbefore hword hblanks hpicked hquery⟩)
  · obtain ⟨query, hfound, rfl⟩ := Option.map_eq_some_iff.1 h
    obtain ⟨front, opened, rfl, hinside⟩ := exists_of_findSome?_openedTexts hfound
    obtain ⟨mark, blanks, rfl, hmark, hne, hblanks, hcolon, hpercent⟩ :=
      exists_of_nameInside? hinside
    exact Or.inr (Or.inr ⟨front, mark ++ blanks, by simp, rfl,
      .name hmark hne hblanks hcolon hpercent⟩)

theorem exists_isTypedBehind (h : typingContext? text = some context) :
    context.kind = .variable ∨ context.kind = .formatToken ∨
      ∃ front kept, IsTypedBehind text context front kept := by
  rw [typingContext?] at h
  split at h
  · cases h
  · have hline : text = text.rdropWhile (· ≠ '\n') ++ trailing (· ≠ '\n') text :=
      List.rdropWhile_append_rtakeWhile.symm
    rcases exists_keeps_of_lineContext? h with
      hkind | hkind | ⟨front, kept, hopened, hstart, hkeeps⟩
    · exact Or.inl hkind
    · exact Or.inr (Or.inl hkind)
    · rw [hopened, ← List.append_assoc] at hline
      refine Or.inr (Or.inr ⟨_, kept, hline, ?_, hkeeps⟩)
      rw [hstart, congrArg List.length hline]
      simp only [List.length_append, List.length_cons]
      omega

end NoteTemplate
