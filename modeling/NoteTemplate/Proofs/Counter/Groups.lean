import NoteTemplate.Proofs.Counter.FullPrecision
import NoteTemplate.Proofs.NamePattern.Notation

/-!
# The group of the counter

The notation of a pattern for file names is meant to capture the digits of the counter and
nothing else.  Literal text, formats and variables are written without groups that capture,
and the first counter tag that is met is written as one.

A pattern that describes every part goes through the tags that count.  A counter tag inside
a longer tag is none of them: when no other counter tag stands free, no digits are captured
(`groups_of_counterPattern`).
-/

namespace NoteTemplate

open NamePattern

variable {settings : DateTimeSettings} {pattern : Text} {pos : Nat} {met : Bool}
  {parts front behind : NamePattern} {tags : List (Occurrence TitleTag)} {found : CounterPattern}

/-- The notation captures one thing, and that is the digits of the counter. -/
def CapturesCounter (source : Text) : Prop :=
  captureGroups? source = some 1 ∧
    ∃ front behind, source = front ++ PatternPiece.counter.source ++ behind ∧
      captureGroups? front = some 0 ∧ captureGroups? behind = some 0

/-- The tag is a counter without a format. -/
def TitleTag.IsCounter (tag : TitleTag) : Prop := tag = .variable ⟨Variable.counter.name, none⟩

/-- One of the tags that count is a counter. -/
def CounterCounts (pattern : Text) : Prop :=
  ∃ tag ∈ chosenTitleTags pattern true, tag.value.IsCounter

/-! ### Patterns without a counter -/

/-- The piece can be written in the notation and is not the counter. -/
def PatternPiece.isPlain (piece : PatternPiece) : Bool := piece.isWritable && !piece.isCounter

/-- No piece of the pattern is the counter, and all of them can be written in the notation. -/
def NamePattern.IsPlain (pattern : NamePattern) : Prop :=
  ∀ piece ∈ pattern, piece.isPlain = true

instance (pattern : NamePattern) : Decidable pattern.IsPlain := by
  unfold NamePattern.IsPlain; infer_instance

namespace NamePattern

theorem isPlain_append_iff : IsPlain (front ++ behind) ↔ front.IsPlain ∧ behind.IsPlain :=
  List.forall_mem_append

theorem isPlain_flatMap {α : Type} {items : List α} {pieces : α → NamePattern}
    (h : ∀ item ∈ items, (pieces item).IsPlain) : IsPlain (items.flatMap pieces) := by
  intro piece hpiece
  obtain ⟨item, hitem, hmem⟩ := List.mem_flatMap.1 hpiece
  exact h item hitem piece hmem

theorem isPlain_ofText (text : Text) : (ofText text).IsPlain := by
  intro piece hpiece
  obtain ⟨c, -, rfl⟩ := List.mem_map.1 hpiece
  rfl

theorem IsPlain.isWritable (h : parts.IsPlain) : parts.isWritable = true := by
  rw [NamePattern.isWritable, List.all_eq_true]
  intro piece hpiece
  exact (Bool.and_eq_true _ _ ▸ h piece hpiece).1

theorem IsPlain.counters (h : parts.IsPlain) : parts.counters = 0 := by
  rw [NamePattern.counters, List.countP_eq_zero]
  intro piece hpiece hcounter
  have hplain := h piece hpiece
  simp [PatternPiece.isPlain, hcounter] at hplain

end NamePattern

/-- The pattern of every token is plain. -/
theorem Token.isPlain_pattern (token : Token) : token.pattern.IsPlain := by
  cases token <;> decide

theorem isPlain_formatCharPattern (c : Char) : (formatCharPattern c).IsPlain := by
  rw [formatCharPattern]
  split
  · decide
  · split
    · decide
    · split
      · exact List.forall_mem_nil _
      · exact isPlain_ofText [c]

theorem FormatPiece.isPlain_pattern (piece : FormatPiece) : piece.pattern.IsPlain := by
  cases piece with
  | token shown => exact shown.isPlain_pattern
  | literal kept => exact isPlain_flatMap fun c _ => isPlain_formatCharPattern c

theorem isPlain_formatPattern (format : Text) : (formatPattern format).IsPlain :=
  isPlain_flatMap fun piece _ => piece.isPlain_pattern

theorem StoredText.isPlain_pattern {format : StoredText} (h : format.pattern = .ok parts) :
    parts.IsPlain := by
  rw [StoredText.pattern] at h
  cases hpieces : format.formatPieces with
  | error failure => simp [hpieces, bind, Except.bind] at h
  | ok pieces =>
    rw [hpieces] at h
    obtain rfl := Except.ok.inj h
    exact isPlain_flatMap fun piece _ => piece.isPlain_pattern

theorem isPlain_literalPattern (text : Text) : (literalPattern text).IsPlain := isPlain_ofText _

theorem Variable.isPlain_pattern {wanted : Variable} {format : Option Text}
    (h : wanted.pattern settings format = .ok parts) : parts.IsPlain := by
  cases wanted with
  | counter | timestamp | year | month | day | title =>
    obtain rfl := Except.ok.inj h
    decide
  | time =>
    obtain rfl := Except.ok.inj h
    exact isPlain_formatPattern _
  | date =>
    cases format with
    | some format =>
      obtain rfl := Except.ok.inj h
      exact isPlain_formatPattern format
    | none => exact StoredText.isPlain_pattern h
  | datetime =>
    cases format with
    | some format =>
      obtain rfl := Except.ok.inj h
      exact isPlain_formatPattern format
    | none =>
      rw [Variable.pattern] at h
      cases hdate : settings.dateFormat.pattern with
      | error failure => simp [hdate, bind, Except.bind] at h
      | ok shown =>
        rw [hdate] at h
        obtain rfl := Except.ok.inj h
        rw [isPlain_append_iff]
        exact ⟨StoredText.isPlain_pattern hdate,
          List.forall_mem_cons.2 ⟨by decide, isPlain_formatPattern _⟩⟩

theorem isPlain_variablePattern {name : Text} {format : Option Text}
    (h : variablePattern settings name format = .ok parts) : parts.IsPlain := by
  rw [variablePattern] at h
  split at h
  · exact Variable.isPlain_pattern h
  · obtain rfl := Except.ok.inj h
    decide

/-! ### Patterns with one counter -/

/-- One piece of the pattern is the counter, and all of them can be written in the
notation. -/
def NamePattern.HasOneCounter (pattern : NamePattern) : Prop :=
  ∃ front behind : NamePattern, pattern = front ++ .counter :: behind ∧
    front.IsPlain ∧ behind.IsPlain

namespace NamePattern

theorem IsPlain.append_hasOneCounter (h : front.IsPlain) (hbehind : behind.HasOneCounter) :
    HasOneCounter (front ++ behind) := by
  obtain ⟨middle, rest, rfl, hmiddle, hrest⟩ := hbehind
  exact ⟨front ++ middle, rest, (List.append_assoc _ _ _).symm,
    isPlain_append_iff.2 ⟨h, hmiddle⟩, hrest⟩

theorem IsPlain.addsGroups (h : parts.IsPlain) : AddsGroups parts.piecesSource 0 := by
  have hgroups := addsGroups_piecesSource h.isWritable
  rwa [h.counters] at hgroups

theorem IsPlain.captureGroups? (h : parts.IsPlain) : captureGroups? parts.source = some 0 := by
  rw [captureGroups?_source h.isWritable, h.counters]

theorem HasOneCounter.capturesCounter (h : parts.HasOneCounter) : CapturesCounter parts.source := by
  obtain ⟨front, behind, rfl, hfront, hbehind⟩ := h
  have hopening := (addsGroups_anchor (Or.inl rfl)).append hfront.addsGroups
  have hclosing := hbehind.addsGroups.append (addsGroups_anchor (Or.inr rfl))
  have hcounter : AddsGroups PatternPiece.counter.source 1 := PatternPiece.addsGroups_source rfl
  have hsource : source (front ++ .counter :: behind) =
      '^' :: piecesSource front ++ PatternPiece.counter.source ++
        (piecesSource behind ++ ['$']) := by
    simp [source, piecesSource]
  refine ⟨?_, _, _, hsource, captureGroups?_of_addsGroups hopening,
    captureGroups?_of_addsGroups hclosing⟩
  rw [hsource]
  exact captureGroups?_of_addsGroups ((hopening.append hcounter).append hclosing)

end NamePattern

/-! ### Part by part -/

/-- A tag is described by the counter, or without one and nothing is met. -/
theorem TitleTag.of_pattern {tag : TitleTag} {shown : NamePattern} {metNow : Bool}
    (h : tag.pattern settings met = .ok (shown, metNow)) :
    (tag.IsCounter ∧ met = false ∧ shown = [.counter] ∧ metNow = true) ∨
      ((tag.IsCounter → met = true) ∧ shown.IsPlain ∧ metNow = met) := by
  rcases tag with tag | tag
  · rw [TitleTag.pattern] at h
    split at h
    · next hcounter =>
      obtain ⟨hname, hformat, hmet⟩ := hcounter
      obtain ⟨rfl, rfl⟩ := Prod.mk.inj (Except.ok.inj h)
      refine Or.inl ⟨?_, hmet, rfl, rfl⟩
      rw [TitleTag.IsCounter, ← hname, ← hformat]
    · next hother =>
      cases hshown : variablePattern settings tag.name tag.format with
      | error failure => simp [hshown, bind, Except.bind] at h
      | ok described =>
        rw [hshown] at h
        obtain ⟨rfl, rfl⟩ := Prod.mk.inj (Except.ok.inj h)
        refine Or.inr ⟨?_, isPlain_variablePattern hshown, rfl⟩
        rintro ⟨⟩
        simpa using hother
  · obtain ⟨rfl, rfl⟩ := Prod.mk.inj (Except.ok.inj h)
    refine Or.inr ⟨?_, by decide, rfl⟩
    rintro ⟨⟩

theorem partsPatternFrom_cons_iff {tag : Occurrence TitleTag} {text : Text} :
    partsPatternFrom settings met pos (tag :: tags) text = .ok parts ↔
      ∃ (shown : NamePattern) (metNow : Bool) (later : NamePattern),
        tag.value.pattern settings met = .ok (shown, metNow) ∧
        partsPatternFrom settings metNow tag.span.stop tags (text.drop (tag.span.stop - pos)) =
          .ok later ∧
        parts = literalPattern (text.take (tag.span.start - pos)) ++ shown ++ later := by
  rw [partsPatternFrom]
  constructor
  · intro h
    cases hshown : tag.value.pattern settings met with
    | error failure => simp [hshown, bind, Except.bind] at h
    | ok described =>
      obtain ⟨shown, metNow⟩ := described
      cases hlater : partsPatternFrom settings metNow tag.span.stop tags
          (text.drop (tag.span.stop - pos)) with
      | error failure => simp [hshown, hlater, bind, Except.bind] at h
      | ok later =>
        simp only [hshown, hlater, bind, Except.bind] at h
        exact ⟨shown, metNow, later, rfl, hlater, (Except.ok.inj h).symm⟩
  · rintro ⟨shown, metNow, later, hshown, hlater, rfl⟩
    simp only [hshown, hlater, bind, Except.bind]
    rfl

/-- No counter is left to be met. -/
theorem isPlain_partsPatternFrom {text : Text}
    (hmet : ∀ tag ∈ tags, tag.value.IsCounter → met = true)
    (h : partsPatternFrom settings met pos tags text = .ok parts) : parts.IsPlain := by
  induction tags generalizing pos text parts met with
  | nil =>
    obtain rfl := Except.ok.inj h
    exact isPlain_literalPattern text
  | cons tag tags ih =>
    obtain ⟨shown, metNow, later, hshown, hlater, rfl⟩ := partsPatternFrom_cons_iff.1 h
    obtain ⟨htag, htags⟩ := List.forall_mem_cons.1 hmet
    rcases TitleTag.of_pattern hshown with ⟨hcounter, hfalse, -, -⟩ | ⟨-, hplain, rfl⟩
    · rw [htag hcounter] at hfalse
      cases hfalse
    · rw [isPlain_append_iff, isPlain_append_iff]
      exact ⟨⟨isPlain_literalPattern _, hplain⟩, ih htags hlater⟩

/-- The first counter that is met is described by the counter, and nothing else is. -/
theorem hasOneCounter_partsPatternFrom {text : Text} (hcounter : ∃ tag ∈ tags, tag.value.IsCounter)
    (h : partsPatternFrom settings false pos tags text = .ok parts) : parts.HasOneCounter := by
  induction tags generalizing pos text parts with
  | nil => simp at hcounter
  | cons tag tags ih =>
    obtain ⟨shown, metNow, later, hshown, hlater, rfl⟩ := partsPatternFrom_cons_iff.1 h
    rcases TitleTag.of_pattern hshown with ⟨-, -, rfl, rfl⟩ | ⟨htag, hplain, rfl⟩
    · refine ⟨_, later, List.append_assoc _ _ _, isPlain_literalPattern _, ?_⟩
      exact isPlain_partsPatternFrom (fun _ _ _ => rfl) hlater
    · have hrest : ∃ tag ∈ tags, tag.value.IsCounter := by
        obtain ⟨other, hmem, hother⟩ := hcounter
        rcases List.mem_cons.1 hmem with rfl | hmem
        · exact absurd (htag hother) Bool.false_ne_true
        · exact ⟨other, hmem, hother⟩
      have hfront : IsPlain (literalPattern (text.take (tag.span.start - pos)) ++ shown) :=
        isPlain_append_iff.2 ⟨isPlain_literalPattern _, hplain⟩
      exact hfront.append_hasOneCounter (ih hrest hlater)

/-! ### The pattern is built -/

section

variable {format : Text} (hdate : settings.dateFormat = .text format)

include hdate

theorem Variable.exists_pattern (wanted : Variable) (given : Option Text) :
    ∃ shown : NamePattern, wanted.pattern settings given = .ok shown := by
  have hstored : settings.dateFormat.pattern = .ok (formatPattern format) := by
    rw [hdate]
    rfl
  cases wanted with
  | counter | time | timestamp | year | month | day | title => exact ⟨_, rfl⟩
  | date =>
    cases given with
    | some given => exact ⟨_, rfl⟩
    | none => exact ⟨_, hstored⟩
  | datetime =>
    cases given with
    | some given => exact ⟨_, rfl⟩
    | none =>
      rw [Variable.pattern, hstored]
      exact ⟨_, rfl⟩

theorem exists_variablePattern (name : Text) (given : Option Text) :
    ∃ shown : NamePattern, variablePattern settings name given = .ok shown := by
  rw [variablePattern]
  split
  · exact Variable.exists_pattern hdate _ _
  · exact ⟨_, rfl⟩

theorem TitleTag.exists_pattern (met : Bool) (tag : TitleTag) :
    ∃ (shown : NamePattern) (metNow : Bool), tag.pattern settings met = .ok (shown, metNow) := by
  rcases tag with tag | tag
  · rw [TitleTag.pattern]
    split
    · exact ⟨_, _, rfl⟩
    · obtain ⟨shown, hshown⟩ := exists_variablePattern hdate tag.name tag.format
      rw [hshown]
      exact ⟨_, _, rfl⟩
  · exact ⟨_, _, rfl⟩

/-- When the format of dates is a text, every tag can be described. -/
theorem exists_partsPatternFrom (met : Bool) (pos : Nat) (tags : List (Occurrence TitleTag))
    (text : Text) :
    ∃ parts : NamePattern, partsPatternFrom settings met pos tags text = .ok parts := by
  induction tags generalizing met pos text with
  | nil => exact ⟨_, rfl⟩
  | cons tag tags ih =>
    obtain ⟨shown, metNow, hshown⟩ := TitleTag.exists_pattern hdate met tag.value
    obtain ⟨later, hlater⟩ := ih metNow tag.span.stop (text.drop (tag.span.stop - pos))
    exact ⟨_, partsPatternFrom_cons_iff.2 ⟨shown, metNow, later, hshown, hlater, rfl⟩⟩

theorem exists_counterPattern? (hcounter : hasCounter pattern = true) :
    ∃ found, counterPattern? settings pattern = .ok (some found) := by
  rw [hasCounter_eq] at hcounter
  obtain ⟨⟨before, after⟩, hcut⟩ := Option.isSome_iff_exists.1 hcounter
  obtain ⟨parts, hparts⟩ :=
    exists_partsPatternFrom hdate false 0 (chosenTitleTags pattern true) pattern
  simp only [counterPattern?, hcut]
  split
  · exact ⟨_, rfl⟩
  · exact ⟨_, rfl⟩
  · exact ⟨_, rfl⟩
  · rw [partsPattern, hparts]
    exact ⟨_, rfl⟩

end

/-! ### The counter is captured -/

/-- A counter that stands free is one of the tags that count. -/
theorem counterCounts_of_standsFree (hcounter : hasCounter pattern = true)
    (hfree : CounterStandsFree pattern) : CounterCounts pattern := by
  rw [hasCounter_eq] at hcounter
  obtain ⟨⟨before, after⟩, hcut⟩ := Option.isSome_iff_exists.1 hcounter
  obtain ⟨name, hname, hpattern, hhead⟩ := exists_of_cutAtCounter? hcut
  obtain ⟨hvariables, hprompts⟩ := hfree _ hhead
  obtain ⟨earlier, later, hchosen, -, -⟩ :=
    exists_chosenTitleTags_counter hname hpattern hvariables hprompts true
  refine ⟨counterOccurrence before, ?_, rfl⟩
  rw [hchosen]
  exact List.mem_append_right _ List.mem_cons_self

/-- With a side that is fixed, the counter is a piece of the pattern. -/
theorem hasOneCounter_of_fixed (hfound : counterPattern? settings pattern = .ok (some found))
    (hstrategy : found.strategy ≠ .everyPart) : found.pattern.HasOneCounter := by
  rw [counterPattern?] at hfound
  cases hcut : cutAtCounter? pattern with
  | none => simp [hcut] at hfound
  | some cut =>
    obtain ⟨before, after⟩ := cut
    simp only [hcut] at hfound
    split at hfound
    · obtain rfl := Option.some.inj (Except.ok.inj hfound)
      exact ⟨_, _, rfl, isPlain_literalPattern before, isPlain_literalPattern after⟩
    · obtain rfl := Option.some.inj (Except.ok.inj hfound)
      exact ⟨_, [.anything], rfl, isPlain_literalPattern before, by decide⟩
    · obtain rfl := Option.some.inj (Except.ok.inj hfound)
      exact ⟨[.gap], _, rfl, by decide, isPlain_literalPattern after⟩
    · cases hparts : partsPattern settings pattern with
      | error failure => simp [hparts, bind, Except.bind] at hfound
      | ok parts =>
        rw [hparts] at hfound
        obtain rfl := Option.some.inj (Except.ok.inj hfound)
        exact absurd rfl hstrategy

/-- The pattern of a numbered title is built, and its notation is valid.  It captures the digits
of the counter and nothing else, unless every part is described and no counter tag is one of
the tags that count: then it captures nothing. -/
theorem groups_of_counterPattern (settings : DateTimeSettings)
    (hcounter : hasCounter pattern = true) :
    ((∃ format, settings.dateFormat = .text format) →
        ∃ found, counterPattern? settings pattern = .ok (some found)) ∧
      ∀ found, counterPattern? settings pattern = .ok (some found) →
        ((found.strategy = .everyPart → CounterCounts pattern) →
          CapturesCounter found.pattern.source) ∧
        (found.strategy = .everyPart → ¬CounterCounts pattern →
          captureGroups? found.pattern.source = some 0) := by
  refine ⟨fun ⟨format, hdate⟩ => exists_counterPattern? hdate hcounter, ?_⟩
  intro found hfound
  by_cases heach : found.strategy = .everyPart
  · have hparts := partsPattern_of_everyPart hfound heach
    constructor
    · intro hcounts
      exact (hasOneCounter_partsPatternFrom (hcounts heach) hparts).capturesCounter
    · intro _ hnone
      have hplain : found.pattern.IsPlain := by
        refine isPlain_partsPatternFrom ?_ hparts
        intro tag htag hcounter
        exact absurd ⟨tag, htag, hcounter⟩ hnone
      exact hplain.captureGroups?
  · constructor
    · intro _
      exact (hasOneCounter_of_fixed hfound heach).capturesCounter
    · intro h
      exact absurd h heach

/-- A title with the year and the month around the number. -/
def datedPattern : Text :=
  "\x7b\x7byear\x7d\x7d/\x7b\x7bCounter\x7d\x7d of \x7b\x7bmonth\x7d\x7d".toList

/-- The number between the year and the month is captured. -/
theorem groups_of_datedPattern :
    hasCounter datedPattern = true ∧ CounterCounts datedPattern ∧
      ∃ found, counterPattern? .default datedPattern = .ok (some found) ∧
        CapturesCounter found.pattern.source := by
  have hcounter : hasCounter datedPattern = true := by decide +kernel
  have hcounts : CounterCounts datedPattern :=
    counterCounts_of_standsFree hcounter (by decide +kernel)
  obtain ⟨hbuilt, hgroups⟩ := groups_of_counterPattern .default hcounter
  obtain ⟨found, hfound⟩ := hbuilt ⟨_, rfl⟩
  exact ⟨hcounter, hcounts, found, hfound, (hgroups found hfound).1 fun _ => hcounts⟩

/-- A title with a question between two days; the number is an option of the question. -/
def askedPattern : Text :=
  "\x7b\x7bdate\x7d\x7d\x7b% X:list:\x7b\x7bcounter\x7d\x7d %\x7d\x7b\x7bdate\x7d\x7d".toList

theorem chosenTitleTags_askedPattern :
    chosenTitleTags askedPattern true =
      [⟨⟨0, 8⟩, .variable ⟨"date".toList, none⟩⟩,
       ⟨⟨8, 32⟩, .prompt ⟨false, " X:list:\x7b\x7bcounter\x7d\x7d".toList, false⟩⟩,
       ⟨⟨32, 40⟩, .variable ⟨"date".toList, none⟩⟩] := by
  have hvariables : variableTags askedPattern =
      [⟨⟨0, 8⟩, ⟨"date".toList, none⟩⟩, ⟨⟨18, 29⟩, ⟨"counter".toList, none⟩⟩,
       ⟨⟨32, 40⟩, ⟨"date".toList, none⟩⟩] := by
    decide +kernel
  have hprompts : promptTags askedPattern =
      [⟨⟨8, 32⟩, ⟨false, " X:list:\x7b\x7bcounter\x7d\x7d".toList, false⟩⟩] := by
    decide +kernel
  rw [chosenTitleTags, titleTags, hvariables, hprompts]
  simp [Occurrence.map, List.cons_merge_cons_pos, disjointFrom]

/-- The question is described as a whole, and nothing is captured. -/
theorem not_captured_in_question :
    titleProblems askedPattern = [] ∧ hasCounter askedPattern = true ∧
      ∃ found, counterPattern? .default askedPattern = .ok (some found) ∧
        captureGroups? found.pattern.source = some 0 := by
  have hcut : cutAtCounter? askedPattern = some
      ("\x7b\x7bdate\x7d\x7d\x7b% X:list:".toList, " %\x7d\x7b\x7bdate\x7d\x7d".toList) := by
    decide +kernel
  have hbefore : hasTags "\x7b\x7bdate\x7d\x7d\x7b% X:list:".toList = true := by decide +kernel
  have hafter : hasTags " %\x7d\x7b\x7bdate\x7d\x7d".toList = true := by decide +kernel
  have hpattern : counterPattern? .default askedPattern = .ok (some
      ⟨formatPattern "YYYY-MM-DD".toList ++ .gap :: formatPattern "YYYY-MM-DD".toList,
        .everyPart⟩) := by
    simp only [counterPattern?, hcut, hbefore, hafter, partsPattern, chosenTitleTags_askedPattern]
    decide +kernel
  exact ⟨by decide +kernel, by decide +kernel, _, hpattern, by decide +kernel⟩

end NoteTemplate
