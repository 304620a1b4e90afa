import NoteTemplate.Proofs.Counter.ReadBack
import NoteTemplate.Proofs.Variable.Covering
import NoteTemplate.Title.Checking

/-!
# Patterns that describe every part

When both sides of the counter have tags, the pattern for file names describes every part of
the title.  The title is shown tag by tag and its pattern is made tag by tag, over the same
tags, so a shown title is covered by the pattern part by part (`accepts_of_render`).

The pattern takes the local zone for one whose name has only letters, so the name of a note that
shows another one does not match (`not_accepts_of_westernTitle`); and it expects ten to thirteen
digits of a time stamp.
-/

namespace NoteTemplate

open NamePattern

variable {context : RenderContext} {prompts : List Prompt} {values : PromptValues}
  {mode : FillMode} {pattern title : Text} {number next pos : Nat} {met : Bool}
  {settings : DateTimeSettings}

/-! ### The same tags on both sides -/

theorem promptName_ne_nil (hproblems : titleProblems pattern = []) {found : TagOccurrence}
    (hfound : found ∈ promptTags pattern) : promptName found.value.content ≠ [] := by
  intro hempty
  have hnames : (promptTags pattern).filterMap (nameProblem? pattern) = [] :=
    (List.append_eq_nil_iff.1 hproblems).2
  have hnone := List.filterMap_eq_nil_iff.1 hnames found hfound
  have hname : NameProblem.ofName? [] = some .empty := rfl
  rw [nameProblem?, hempty, hname] at hnone
  simp at hnone

theorem promptsOfTags_eq_nil_iff {tags : List TagOccurrence}
    (hnames : ∀ found ∈ tags, promptName found.value.content ≠ []) :
    promptsOfTags tags = [] ↔ tags = [] := by
  cases tags with
  | nil => simp [promptsOfTags, promptsOfTagsFrom]
  | cons found tags =>
    have hname : found.prompt.name.isEmpty = false := by
      have hne := hnames found List.mem_cons_self
      rw [List.isEmpty_eq_false_iff]
      exact hne
    simp [promptsOfTags, promptsOfTagsFrom, hname]

/-- A usable pattern has prompts when it has prompt tags, so both sorts of tags count. -/
theorem chosenTitleTags_extractPrompts (hproblems : titleProblems pattern = []) (next : Nat) :
    chosenTitleTags pattern (!(extractPrompts next pattern).1.isEmpty) =
      chosenTitleTags pattern true := by
  cases hprompts : (extractPrompts next pattern).1.isEmpty with
  | false => rfl
  | true =>
    have hnone : promptsOfTags (promptTags pattern) = [] := by
      rw [List.isEmpty_iff, extractPrompts, ← List.length_eq_zero_iff, length_numberPrompts,
        List.length_eq_zero_iff] at hprompts
      exact hprompts
    rw [promptsOfTags_eq_nil_iff fun _ hfound => promptName_ne_nil hproblems hfound] at hnone
    rw [chosenTitleTags, chosenTitleTags, titleTags, titleTags, hnone]
    rfl

/-! ### Tag by tag -/

theorem covers_counter (number : Nat) : Covers [.counter] (decimal number) := by
  rw [Covers, cleanCharacters_decimal]
  exact takes_singleton (fills_decimal number)

/-- The tag shows the name of the zone. -/
def TitleTag.showsZone (settings : DateTimeSettings) : TitleTag → Bool
  | .variable tag => tag.showsZone settings
  | .prompt _ => false

/-- The tag shows the time stamp. -/
def TitleTag.showsTimestamp : TitleTag → Bool
  | .variable tag => tag.showsTimestamp
  | .prompt _ => false

/-- A title of the pattern shows the name of the zone. -/
def titleShowsZone (settings : DateTimeSettings) (pattern : Text) : Bool :=
  (chosenTitleTags pattern true).any fun found => found.value.showsZone settings

/-- A title of the pattern shows the time stamp. -/
def titleShowsTimestamp (pattern : Text) : Bool :=
  (chosenTitleTags pattern true).any fun found => found.value.showsTimestamp

/-- A tag is shown as a text that its part of the pattern covers. -/
theorem covers_of_piece [LocalZone] (h : context.IsNumbered number) {tag : TitleTag} {source : Text}
    {piece : TitlePiece}
    (hzone : tag.showsZone context.settings = true → context.instant.HasPlainZone)
    (hstamp : tag.showsTimestamp = true → context.instant.HasStampDigits)
    (hpiece : tag.piece context prompts source = .ok piece) (met : Bool) :
    ∃ (shown : NamePattern) (metNow : Bool),
      tag.pattern context.settings met = .ok (shown, metNow) ∧
        shown.Covers (piece.fill mode values) := by
  rcases tag with tag | tag
  · rw [TitleTag.pattern]
    split
    · next hcounter =>
      obtain ⟨hname, hformat, -⟩ := hcounter
      have htag : tag = ⟨Variable.counter.name, none⟩ := by
        rw [← hname, ← hformat]
      subst htag
      obtain ⟨rfl, -⟩ := piece_counter h.counter hpiece
      exact ⟨_, true, rfl, covers_counter number⟩
    · rw [TitleTag.piece] at hpiece
      obtain ⟨value, hvalue, hpiece⟩ := bind_eq_ok_iff.1 hpiece
      obtain rfl := Except.ok.inj hpiece
      obtain ⟨shown, hshown, hcovers⟩ :=
        RenderContext.covers_of_renderTag h hzone hstamp hvalue source
      rw [hshown]
      exact ⟨shown, met, rfl, hcovers⟩
  · exact ⟨_, met, rfl, covers_gap _⟩

/-- The pieces of a text and the parts of its pattern go together. -/
theorem covers_of_titlePiecesFrom [LocalZone] (h : context.IsNumbered number)
    {tags : List (Occurrence TitleTag)} {text : Text} {pieces : List TitlePiece}
    (hzone : ∀ tag ∈ tags, tag.value.showsZone context.settings = true →
      context.instant.HasPlainZone)
    (hstamp : ∀ tag ∈ tags, tag.value.showsTimestamp = true → context.instant.HasStampDigits)
    (hpieces : titlePiecesFrom context prompts pos tags text = .ok pieces) (met : Bool) :
    ∃ parts : NamePattern, partsPatternFrom context.settings met pos tags text = .ok parts ∧
      parts.Covers (pieces.flatMap (TitlePiece.fill mode values)) := by
  induction tags generalizing pos text pieces met with
  | nil =>
    rw [titlePiecesFrom_nil] at hpieces
    obtain rfl := Except.ok.inj hpieces
    refine ⟨literalPattern text, rfl, ?_⟩
    rw [List.flatMap_singleton]
    exact covers_literalPattern text
  | cons tag tags ih =>
    obtain ⟨piece, rest, hpiece, hrest, rfl⟩ := titlePiecesFrom_cons_iff.1 hpieces
    rw [List.forall_mem_cons] at hzone hstamp
    obtain ⟨shown, metNow, hshown, hcovers⟩ := covers_of_piece h hzone.1 hstamp.1 hpiece met
    obtain ⟨later, hlater, hcoversLater⟩ := ih hzone.2 hstamp.2 hrest metNow
    refine ⟨literalPattern (text.take (tag.span.start - pos)) ++ shown ++ later, ?_, ?_⟩
    · rw [partsPatternFrom, hshown]
      simp only [bind, Except.bind, hlater]
      rfl
    · rw [List.flatMap_cons, List.flatMap_cons, ← List.append_assoc]
      exact ((covers_literalPattern _).append hcovers).append hcoversLater

theorem partsPattern_of_everyPart {found : CounterPattern}
    (hfound : counterPattern? settings pattern = .ok (some found))
    (hstrategy : found.strategy = .everyPart) :
    partsPattern settings pattern = .ok found.pattern := by
  rw [counterPattern?] at hfound
  cases hcut : cutAtCounter? pattern with
  | none => simp [hcut] at hfound
  | some cut =>
    obtain ⟨before, after⟩ := cut
    simp only [hcut] at hfound
    split at hfound
    · obtain rfl := Option.some.inj (Except.ok.inj hfound)
      cases hstrategy
    · obtain rfl := Option.some.inj (Except.ok.inj hfound)
      cases hstrategy
    · obtain rfl := Option.some.inj (Except.ok.inj hfound)
      cases hstrategy
    · cases hparts : partsPattern settings pattern with
      | error failure => simp [hparts, bind, Except.bind] at hfound
      | ok parts =>
        rw [hparts] at hfound
        obtain rfl := Option.some.inj (Except.ok.inj hfound)
        rfl

/-- The pattern that describes every part accepts the name of a shown title, unless it shows a
zone whose name has not only letters or a time stamp with too few or too many digits. -/
theorem accepts_of_render [LocalZone] (hproblems : titleProblems pattern = [])
    {found : CounterPattern} (hfound : counterPattern? settings pattern = .ok (some found))
    (hstrategy : found.strategy = .everyPart) {instant : Instant} (hrecent : instant.IsRecent)
    (hzone : titleShowsZone settings pattern = true → instant.HasPlainZone)
    (hstamp : titleShowsTimestamp pattern = true → instant.HasStampDigits)
    (hrender : renderTitle mode ⟨settings, instant, some (number : Int), .filename⟩
      (extractPrompts next pattern).1 values pattern = .ok title)
    (hclean : cleanFilename title = cleanCharacters title) :
    found.pattern.accepts (cleanFilename title) = true := by
  have hnumbered : RenderContext.IsNumbered
      ⟨settings, instant, some (number : Int), .filename⟩ number := ⟨rfl, rfl, hrecent⟩
  obtain ⟨pieces, hpieces, rfl⟩ := renderTitle_iff.1 hrender
  rw [titlePieces, chosenTitleTags_extractPrompts hproblems] at hpieces
  obtain ⟨parts, hparts, hcovers⟩ := covers_of_titlePiecesFrom hnumbered
    (fun tag htag hshows => hzone (List.any_eq_true.2 ⟨tag, htag, hshows⟩))
    (fun tag htag hshows => hstamp (List.any_eq_true.2 ⟨tag, htag, hshows⟩)) hpieces false
  have hpattern := partsPattern_of_everyPart hfound hstrategy
  rw [partsPattern, hparts] at hpattern
  obtain rfl := Except.ok.inj hpattern
  rw [accepts_iff, hclean]
  exact ⟨_, hcovers, Or.inl rfl⟩

/-- A title with the day, a number and a guest. -/
def guestPattern : Text :=
  "\x7b\x7bdate:Do MMM\x7d\x7d \x7b\x7bcounter\x7d\x7d \x7b%Who%\x7d".toList

theorem chosenTitleTags_guestPattern :
    chosenTitleTags guestPattern true =
      [⟨⟨0, 15⟩, .variable ⟨"date".toList, some "Do MMM".toList⟩⟩,
       ⟨⟨16, 27⟩, .variable ⟨"counter".toList, none⟩⟩,
       ⟨⟨28, 35⟩, .prompt ⟨false, "Who".toList, false⟩⟩] := by
  have hvariables : variableTags guestPattern =
      [⟨⟨0, 15⟩, ⟨"date".toList, some "Do MMM".toList⟩⟩,
       ⟨⟨16, 27⟩, ⟨"counter".toList, none⟩⟩] := by
    decide +kernel
  have hprompts : promptTags guestPattern = [⟨⟨28, 35⟩, ⟨false, "Who".toList, false⟩⟩] := by
    decide +kernel
  rw [chosenTitleTags, titleTags, hvariables, hprompts]
  simp [Occurrence.map, List.cons_merge_cons_pos, disjointFrom]

section

attribute [local instance] LocalZone.utc

/-- The fifth of March with the number 7. -/
theorem accepts_of_guestPattern :
    titleProblems guestPattern = [] ∧
      counterPattern? .default guestPattern = .ok (some
        ⟨[.oneOrTwoDigits, .ordinalSuffix, .one (.only ' '), .exactly 3 .letter,
          .one (.only ' '), .counter, .one (.only ' '), .gap], .everyPart⟩) ∧
      seventhContext.instant.IsRecent ∧
      seventhContext.instant.HasPlainZone ∧ seventhContext.instant.HasStampDigits ∧
      renderTitle .final seventhContext (extractPrompts 0 guestPattern).1
        [(promptId 0, "Ada".toList)] guestPattern = .ok "5th Mar 7 Ada".toList ∧
      cleanFilename "5th Mar 7 Ada".toList = cleanCharacters "5th Mar 7 Ada".toList ∧
      NamePattern.accepts [.oneOrTwoDigits, .ordinalSuffix, .one (.only ' '), .exactly 3 .letter,
          .one (.only ' '), .counter, .one (.only ' '), .gap]
        (cleanFilename "5th Mar 7 Ada".toList) = true := by
  have hproblems : titleProblems guestPattern = [] := by decide +kernel
  have hpattern : counterPattern? .default guestPattern = .ok (some
      ⟨[.oneOrTwoDigits, .ordinalSuffix, .one (.only ' '), .exactly 3 .letter,
        .one (.only ' '), .counter, .one (.only ' '), .gap], .everyPart⟩) := by
    have hcut : cutAtCounter? guestPattern = some ("\x7b\x7bdate:Do MMM\x7d\x7d ".toList,
        " \x7b%Who%\x7d".toList) := by
      decide +kernel
    have hbefore : hasTags "\x7b\x7bdate:Do MMM\x7d\x7d ".toList = true := by decide +kernel
    have hafter : hasTags " \x7b%Who%\x7d".toList = true := by decide +kernel
    simp only [counterPattern?, hcut, hbefore, hafter, partsPattern, chosenTitleTags_guestPattern]
    decide +kernel
  have hrecent : seventhContext.instant.IsRecent := by decide +kernel
  have hutc : LocalZone.IsUtc := ⟨fun _ => rfl, fun _ => rfl⟩
  have hzone := Instant.hasPlainZone_of_isUtc hrecent.isLocal hutc
  have hstamp := hrecent.hasStampDigits hutc
  have hrender : renderTitle .final seventhContext (extractPrompts 0 guestPattern).1
      [(promptId 0, "Ada".toList)] guestPattern = .ok "5th Mar 7 Ada".toList := by
    rw [renderTitle, titlePieces, chosenTitleTags_extractPrompts hproblems,
      chosenTitleTags_guestPattern]
    decide +kernel
  have hclean : cleanFilename "5th Mar 7 Ada".toList = cleanCharacters "5th Mar 7 Ada".toList := by
    decide +kernel
  exact ⟨hproblems, hpattern, hrecent, hzone, hstamp, hrender, hclean,
    accepts_of_render hproblems hpattern rfl hrecent (fun _ => hzone) (fun _ => hstamp) hrender
      hclean⟩

end

/-- Clocks three hours behind UTC, in a zone that is called by its offset. -/
@[reducible] def westernZone : LocalZone where
  offsetAt _ := -10800
  nameAt _ := "-03".toList
  natAbs_offsetAt_lt _ := by decide

/-- A title with the zone, a number and the year. -/
def westernPattern : Text :=
  "\x7b\x7bdate:z\x7d\x7d \x7b\x7bcounter\x7d\x7d \x7b\x7byear\x7d\x7d".toList

section

attribute [local instance] westernZone

/-- The name of a zone may have digits and a sign, which the pattern does not expect. -/
theorem not_accepts_of_westernTitle :
    titleProblems westernPattern = [] ∧
      counterPattern? .default westernPattern = .ok (some
        ⟨[.chars .letter 0 none true, .one (.only ' '), .counter, .one (.only ' '),
          .exactly 4 .digit], .everyPart⟩) ∧
      seventhContext.instant.IsRecent ∧
      renderTitle .final seventhContext (extractPrompts 0 westernPattern).1 [] westernPattern =
        .ok "-03 7 2024".toList ∧
      cleanFilename "-03 7 2024".toList = cleanCharacters "-03 7 2024".toList ∧
      NamePattern.accepts [.chars .letter 0 none true, .one (.only ' '), .counter,
        .one (.only ' '), .exactly 4 .digit] (cleanFilename "-03 7 2024".toList) = false := by
  have hproblems : titleProblems westernPattern = [] := by decide +kernel
  have htags : chosenTitleTags westernPattern true =
      [⟨⟨0, 10⟩, .variable ⟨"date".toList, some "z".toList⟩⟩,
       ⟨⟨11, 22⟩, .variable ⟨"counter".toList, none⟩⟩,
       ⟨⟨23, 31⟩, .variable ⟨"year".toList, none⟩⟩] := by
    have hvariables : variableTags westernPattern =
        [⟨⟨0, 10⟩, ⟨"date".toList, some "z".toList⟩⟩, ⟨⟨11, 22⟩, ⟨"counter".toList, none⟩⟩,
         ⟨⟨23, 31⟩, ⟨"year".toList, none⟩⟩] := by
      decide +kernel
    have hprompts : promptTags westernPattern = [] := by decide +kernel
    rw [chosenTitleTags, titleTags, hvariables, hprompts]
    simp [Occurrence.map, disjointFrom]
  have hpattern : counterPattern? .default westernPattern = .ok (some
      ⟨[.chars .letter 0 none true, .one (.only ' '), .counter, .one (.only ' '),
        .exactly 4 .digit], .everyPart⟩) := by
    have hcut : cutAtCounter? westernPattern = some ("\x7b\x7bdate:z\x7d\x7d ".toList,
        " \x7b\x7byear\x7d\x7d".toList) := by
      decide +kernel
    have hbefore : hasTags "\x7b\x7bdate:z\x7d\x7d ".toList = true := by decide +kernel
    have hafter : hasTags " \x7b\x7byear\x7d\x7d".toList = true := by decide +kernel
    simp only [counterPattern?, hcut, hbefore, hafter, partsPattern, htags]
    decide +kernel
  have hrender : renderTitle .final seventhContext (extractPrompts 0 westernPattern).1 []
      westernPattern = .ok "-03 7 2024".toList := by
    rw [renderTitle, titlePieces, chosenTitleTags_extractPrompts hproblems, htags]
    decide +kernel
  exact ⟨hproblems, hpattern, by decide +kernel, hrender, by decide +kernel, by decide +kernel⟩

end

end NoteTemplate
