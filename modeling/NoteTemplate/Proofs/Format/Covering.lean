import Mathlib.Data.List.GetD
import NoteTemplate.Format.Stored
import NoteTemplate.Proofs.Calendar.SinceEpoch
import NoteTemplate.Proofs.NamePattern.Covering

/-!
# What a format shows is covered by its pattern

The text that a token shows for a local instant is described by the pattern of the token, when
Unix time has no sign and the name of the zone has only letters; and what a format shows is
covered by the pattern of the format.  Both hold since 1970 where the clocks show UTC
(`takes_of_format`).  Before 1970 the Unix time has a sign, which its pattern does not take, and
so has the name of many a zone.
-/

namespace NoteTemplate

/-- The token shows the name of the zone. -/
def Token.isZoneName : Token → Bool
  | .zoneName | .zoneAbbr => true
  | _ => false

/-- The piece of a format shows the name of the zone. -/
def FormatPiece.showsZone : FormatPiece → Bool
  | .token shown => shown.isZoneName
  | .literal _ => false

/-- A stored format shows the name of the zone. -/
def StoredText.showsZone (format : StoredText) : Bool :=
  match format.formatPieces with
  | .ok pieces => pieces.any FormatPiece.showsZone
  | .error _ => false

namespace Instant

open NamePattern

variable {instant : Instant}

/-! ### Names -/

theorem names_spec : ∀ name ∈ monthNames ++ weekdayNames,
    3 ≤ name.length ∧ ∀ c ∈ name, c.isAlpha = true := by
  have hall : ∀ name ∈ monthNames ++ weekdayNames,
      3 ≤ name.length ∧ name.all Char.isAlpha = true := by
    decide
  intro name hname
  obtain ⟨hlength, halpha⟩ := hall name hname
  exact ⟨hlength, List.all_eq_true.1 halpha⟩

theorem monthName_mem (instant : Instant) : instant.monthName ∈ monthNames ++ weekdayNames := by
  obtain ⟨-, -, hpos, hmonth, -⟩ := instant.date.exists_day
  have hlength : instant.date.month - 1 < monthNames.length := by
    rw [show monthNames.length = 12 by decide]
    omega
  rw [monthName, List.getD_eq_getElem _ _ hlength]
  exact List.mem_append_left _ (List.getElem_mem _)

theorem weekdayName_mem (instant : Instant) : instant.weekdayName ∈ monthNames ++ weekdayNames := by
  have hlength : instant.date.weekday < weekdayNames.length := instant.date.weekday_lt_seven
  rw [weekdayName, List.getD_eq_getElem _ _ hlength]
  exact List.mem_append_right _ (List.getElem_mem _)

theorem describes_name {name : Text} (hmem : name ∈ monthNames ++ weekdayNames) :
    Describes [.atLeastOne .letter] name := by
  obtain ⟨hlength, halpha⟩ := names_spec name hmem
  exact describes_letters halpha (by omega) (by simp)

/-- The first letters of a name, up to three of them. -/
theorem describes_take_name {name : Text} {count : Nat} (hmem : name ∈ monthNames ++ weekdayNames)
    (hcount : count ≤ 3) : Describes [.exactly count .letter] (name.take count) := by
  obtain ⟨hlength, halpha⟩ := names_spec name hmem
  have htake : (name.take count).length = count := List.length_take_of_le (by omega)
  apply describes_letters
  · intro c hc
    exact halpha c (List.mem_of_mem_take hc)
  · exact Nat.le_of_eq htake.symm
  · rintro _ ⟨⟩
    exact Nat.le_of_eq htake

/-! ### Halves, quarters and weekdays -/

theorem describes_upperHalf (instant : Instant) :
    Token.upperHalf.pattern.Describes
      (if instant.time.hour < 12 then ['A', 'M'] else ['P', 'M']) := by
  have hlast : Describes [.one (.only 'M')] ['M'] :=
    describes_one (d := 'M') (by decide) (by decide) (by decide)
  split
  · exact (describes_one (d := 'A') (by decide) (by decide) (by decide)).append hlast
  · exact (describes_one (d := 'P') (by decide) (by decide) (by decide)).append hlast

theorem describes_lowerHalf (instant : Instant) :
    Token.lowerHalf.pattern.Describes
      (if instant.time.hour < 12 then ['a', 'm'] else ['p', 'm']) := by
  have hlast : Describes [.one (.only 'm')] ['m'] :=
    describes_one (d := 'm') (by decide) (by decide) (by decide)
  split
  · exact (describes_one (d := 'a') (by decide) (by decide) (by decide)).append hlast
  · exact (describes_one (d := 'p') (by decide) (by decide) (by decide)).append hlast

theorem describes_quarter (date : Date) :
    Describes [.one (.range '1' '4')] (decimal date.quarter) ∧
      Describes [.one (.range '1' '4'), .ordinalSuffix] (ordinal date.quarter) := by
  obtain ⟨-, -, hpos, hmonth, -⟩ := date.exists_day
  have hquarter : date.quarter < 5 ∧ 1 ≤ date.quarter := by
    rw [Date.quarter]
    omega
  have hdigit : ∀ n < 5, 1 ≤ n → decimal n = [n.digitChar] ∧
      cleanChar? n.digitChar = some n.digitChar ∧
      (CharSet.range '1' '4').holds n.digitChar = true := by
    decide
  obtain ⟨hdecimal, hclean, hset⟩ := hdigit _ hquarter.1 hquarter.2
  have hone := describes_one hset hclean hset
  rw [← hdecimal] at hone
  exact ⟨hone, hone.append (describes_ordinalSuffix _)⟩

theorem isoWeekday_lt (date : Date) : date.isoWeekday < 10 := by
  have hweekday := date.weekday_lt_seven
  rw [Date.isoWeekday]
  split <;> omega

theorem hour12_lt (time : ClockTime) : time.hour12 < 100 :=
  Nat.lt_of_le_of_lt time.hour12_bounds.2 (by decide)

theorem hourFrom1_lt (time : ClockTime) : time.hourFrom1 < 100 := by
  have hhour := time.exists_time.1
  rw [ClockTime.hourFrom1]
  split <;> omega

/-! ### Tokens -/

section

variable [LocalZone]

/-- The name of the zone has only letters. -/
def HasPlainZone (instant : Instant) : Prop :=
  ∀ name, instant.zoneName = .ok name → ∀ c ∈ name, c.isAlpha = true

section

variable (h : instant.IsCounted)

include h

/-- An offset is shown as a sign, two digits and two digits. -/
theorem exists_of_offsetText {separator shown : Text}
    (hshown : instant.offsetText separator = .ok shown) :
    ∃ (sign : Char) (hours minutes : Nat),
      shown = sign :: paddedDecimal 2 hours ++ separator ++ paddedDecimal 2 minutes ∧
        Describes [.one signSet] [sign] ∧ hours < 100 ∧ minutes < 100 := by
  rw [offsetText] at hshown
  obtain ⟨offset, hoffset, hshown⟩ := bind_eq_ok_iff.1 hshown
  obtain rfl := Except.ok.inj hshown
  have hday := h.natAbs_lt_of_offsetSeconds hoffset
  refine ⟨_, _, _, rfl, ?_, by omega, by omega⟩
  split
  · exact describes_one (d := '-') (by decide) (by decide) (by decide)
  · exact describes_one (d := '+') (by decide) (by decide) (by decide)

theorem exists_localWeek (hyear : instant.date.year ≤ 9998) : ∃ year week : Nat,
    instant.localWeek = .ok ⟨year, week⟩ ∧ year < 10000 ∧ week < 100 := by
  obtain ⟨⟨year, week⟩, hfound, hyears, hpos, hweek⟩ := exists_weekOf_english instant.date hyear
  dsimp only at hyears hpos hweek
  have hfirst := h.two_le_year
  refine ⟨year.toNat, week.toNat, ?_, by omega, by omega⟩
  rw [localWeek, hfound, Int.toNat_of_nonneg (by omega), Int.toNat_of_nonneg (by omega)]

/-- What is shown of a local week is shown of a week and a year with few digits. -/
theorem exists_of_showWeek {show? : YearWeek → Text} {shown : Text}
    (hshown : (do return show? (← instant.localWeek)) = Except.ok (ε := CalendarError) shown) :
    ∃ year week : Nat, shown = show? ⟨year, week⟩ ∧ year < 10000 ∧ week < 100 := by
  cases hfound : instant.localWeek with
  | error error =>
    rw [hfound] at hshown
    simp [bind, Except.bind] at hshown
  | ok found =>
    obtain ⟨year, week, hweek, hyears, hweeks⟩ :=
      exists_localWeek h (year_le_of_weekOf_english hfound)
    rw [hweek] at hshown
    exact ⟨year, week, (Except.ok.inj hshown).symm, hyears, hweeks⟩

/-- The text that a token shows is described by the pattern of the token. -/
theorem describes_of_showToken {token : Token} {shown : Text}
    (hzone : token.isZoneName = true → instant.HasPlainZone)
    (hshown : instant.showToken token = .ok shown) : token.pattern.Describes shown := by
  obtain ⟨-, hyear, hmonth, hmonth', hday, hday'⟩ := instant.date.exists_day
  obtain ⟨-, hdays⟩ := instant.date.dayOfYear_bounds
  obtain ⟨hhour, hminute, hsecond, hmicrosecond⟩ := instant.time.exists_time
  have hlast := daysInMonth_le instant.date.year instant.date.month
  have hweekday := instant.date.weekday_lt_seven
  obtain ⟨isoYear, isoWeek, hiso, hisoYear, hisoWeek⟩ := h.exists_isoWeek
  cases token with
  | year4 | year2 | month2 | dayOfYear3 | day2 | hour2 | minute2 | second2 | fraction3
  | fraction2 =>
    obtain rfl := Except.ok.inj hshown
    exact describes_paddedDecimal (by decide) (by omega)
  | month | dayOfYear | day | weekday | localeWeekday | hour | minute | second | fraction1 =>
    obtain rfl := Except.ok.inj hshown
    exact describes_decimal_of_lt (by decide) (by omega)
  | monthOrdinal | dayOrdinal | weekdayOrdinal =>
    obtain rfl := Except.ok.inj hshown
    exact describes_ordinal (by decide) (by omega)
  | monthName =>
    obtain rfl := Except.ok.inj hshown
    exact describes_name instant.monthName_mem
  | weekdayName =>
    obtain rfl := Except.ok.inj hshown
    exact describes_name instant.weekdayName_mem
  | monthAbbr =>
    obtain rfl := Except.ok.inj hshown
    exact describes_take_name instant.monthName_mem (by decide)
  | weekdayAbbr | weekdayMin =>
    obtain rfl := Except.ok.inj hshown
    exact describes_take_name instant.weekdayName_mem (by decide)
  | isoWeekday =>
    obtain rfl := Except.ok.inj hshown
    exact describes_decimal_of_lt (by decide) (isoWeekday_lt _)
  | halfDayHour2 =>
    obtain rfl := Except.ok.inj hshown
    exact describes_paddedDecimal (by decide) (hour12_lt _)
  | halfDayHour =>
    obtain rfl := Except.ok.inj hshown
    exact describes_decimal_of_lt (by decide) (hour12_lt _)
  | hourOneBased2 =>
    obtain rfl := Except.ok.inj hshown
    exact describes_paddedDecimal (by decide) (hourFrom1_lt _)
  | hourOneBased =>
    obtain rfl := Except.ok.inj hshown
    exact describes_decimal_of_lt (by decide) (hourFrom1_lt _)
  | upperHalf =>
    obtain rfl := Except.ok.inj hshown
    exact describes_upperHalf instant
  | lowerHalf =>
    obtain rfl := Except.ok.inj hshown
    exact describes_lowerHalf instant
  | quarter =>
    obtain rfl := Except.ok.inj hshown
    exact (describes_quarter instant.date).1
  | quarterOrdinal =>
    obtain rfl := Except.ok.inj hshown
    exact (describes_quarter instant.date).2
  | week2 =>
    obtain ⟨year, week, rfl, -, hweek⟩ := exists_of_showWeek h hshown
    exact describes_paddedDecimal (by decide) hweek
  | weekOrdinal =>
    obtain ⟨year, week, rfl, -, hweek⟩ := exists_of_showWeek h hshown
    rw [signedOrdinal_natCast]
    exact describes_ordinal (by decide) hweek
  | week =>
    obtain ⟨year, week, rfl, -, hweek⟩ := exists_of_showWeek h hshown
    rw [signedDecimal_natCast]
    exact describes_decimal_of_lt (by decide) hweek
  | weekYear4 =>
    obtain ⟨year, week, rfl, hyears, -⟩ := exists_of_showWeek h hshown
    exact describes_paddedDecimal (by decide) hyears
  | weekYear2 =>
    obtain ⟨year, week, rfl, -⟩ := exists_of_showWeek h hshown
    exact describes_paddedDecimal (by decide) (by omega)
  | isoWeek2 =>
    rw [showToken, hiso] at hshown
    obtain rfl := Except.ok.inj hshown
    exact describes_paddedDecimal (by decide) hisoWeek
  | isoWeekOrdinal =>
    rw [showToken, hiso, signedOrdinal_natCast] at hshown
    obtain rfl := Except.ok.inj hshown
    exact describes_ordinal (by decide) hisoWeek
  | isoWeek =>
    rw [showToken, hiso, signedDecimal_natCast] at hshown
    obtain rfl := Except.ok.inj hshown
    exact describes_decimal_of_lt (by decide) hisoWeek
  | isoWeekYear4 =>
    rw [showToken, hiso] at hshown
    obtain rfl := Except.ok.inj hshown
    exact describes_paddedDecimal (by decide) hisoYear
  | isoWeekYear2 =>
    rw [showToken, hiso] at hshown
    obtain rfl := Except.ok.inj hshown
    exact describes_paddedDecimal (by decide) (by omega)
  | unixSeconds =>
    rw [showToken] at hshown
    obtain ⟨seconds, hseconds, hshown⟩ := bind_eq_ok_iff.1 hshown
    obtain ⟨seconds, rfl⟩ := h.exists_of_unixSeconds hseconds
    obtain rfl := Except.ok.inj hshown
    rw [signedDecimal_natCast]
    exact describes_atLeastOne_decimal seconds
  | unixMilliseconds =>
    rw [showToken] at hshown
    obtain ⟨milliseconds, hmilliseconds, hshown⟩ := bind_eq_ok_iff.1 hshown
    obtain ⟨milliseconds, rfl⟩ := h.exists_of_unixMilliseconds hmilliseconds
    obtain rfl := Except.ok.inj hshown
    rw [signedDecimal_natCast]
    exact describes_atLeastOne_decimal milliseconds
  | offsetPlain =>
    obtain ⟨sign, hours, minutes, rfl, hsign, hhours, hminutes⟩ := exists_of_offsetText h hshown
    have hdigits :
        Describes [.exactly 4 .digit] (paddedDecimal 2 hours ++ paddedDecimal 2 minutes) := by
      apply describes_digits
      · intro c hc
        rcases List.mem_append.1 hc with hc | hc <;> exact isDigit_of_mem_paddedDecimal hc
      · rw [List.length_append, length_paddedDecimal_of_lt (by decide) hhours,
          length_paddedDecimal_of_lt (by decide) hminutes]
    rw [List.append_nil]
    exact hsign.append hdigits
  | offsetColon =>
    obtain ⟨sign, hours, minutes, rfl, hsign, hhours, hminutes⟩ := exists_of_offsetText h hshown
    have hcolon : Describes [.one colonSet] [':'] :=
      describes_one (d := '⦂') (by decide) (by decide) (by decide)
    exact ((hsign.append (describes_paddedDecimal (by decide) hhours)).append hcolon).append
      (describes_paddedDecimal (by decide) hminutes)
  | zoneName | zoneAbbr =>
    exact describes_letters (hzone rfl shown hshown) (Nat.zero_le _) (by simp)

/-! ### Formats -/

theorem covers_of_showPiece {piece : FormatPiece} {shown : Text}
    (hzone : piece.showsZone = true → instant.HasPlainZone)
    (hshown : instant.showPiece piece = .ok shown) : piece.pattern.Covers shown := by
  cases piece with
  | token found => exact (describes_of_showToken h hzone hshown).covers
  | literal kept =>
    obtain rfl := Except.ok.inj hshown
    exact covers_formatLiteral kept

theorem takes_of_showPiece {piece : FormatPiece} {shown : Text}
    (hzone : piece.showsZone = true → instant.HasPlainZone)
    (hkept : ∀ c ∈ piece.text, cleanChar? c ≠ none)
    (hshown : instant.showPiece piece = .ok shown) : piece.pattern.Takes shown := by
  cases piece with
  | token found => exact (describes_of_showToken h hzone hshown).takes
  | literal kept =>
    obtain rfl := Except.ok.inj hshown
    exact takes_formatLiteral hkept

omit h in
/-- What is taken piece by piece is taken as a whole. -/
theorem takes_of_showPieces (view : Text → Text) (hnil : view [] = [])
    (happend : ∀ left right, view (left ++ right) = view left ++ view right)
    {pieces : List FormatPiece} {shown : List Text}
    (hpieces : ∀ piece ∈ pieces, ∀ text, instant.showPiece piece = .ok text →
      piece.pattern.Takes (view text))
    (hshown : pieces.mapM instant.showPiece = .ok shown) :
    Takes (pieces.flatMap FormatPiece.pattern) (view shown.flatten) := by
  induction pieces generalizing shown with
  | nil =>
    rw [List.mapM_nil] at hshown
    obtain rfl := Except.ok.inj hshown
    rw [List.flatten_nil, hnil]
    exact .nil
  | cons piece pieces ih =>
    rw [List.mapM_cons] at hshown
    obtain ⟨first, hfirst, hshown⟩ := bind_eq_ok_iff.1 hshown
    obtain ⟨more, hmore, hshown⟩ := bind_eq_ok_iff.1 hshown
    obtain rfl := Except.ok.inj hshown
    rw [List.flatMap_cons, List.flatten_cons, happend]
    exact (hpieces piece (by simp) first hfirst).append
      (ih (fun later hlater => hpieces later (by simp [hlater])) hmore)

theorem covers_of_showPieces {pieces : List FormatPiece} {shown : List Text}
    (hzone : pieces.any FormatPiece.showsZone = true → instant.HasPlainZone)
    (hshown : pieces.mapM instant.showPiece = .ok shown) :
    Covers (pieces.flatMap FormatPiece.pattern) shown.flatten :=
  takes_of_showPieces cleanCharacters cleanCharacters_nil cleanCharacters_append
    (fun _ hpiece _ htext => covers_of_showPiece h
      (fun hshows => hzone (List.any_eq_true.2 ⟨_, hpiece, hshows⟩)) htext) hshown

/-- The pattern of a stored format covers what the format shows. -/
theorem covers_of_formatStored {format : StoredText} {shown : Text}
    (hzone : format.showsZone = true → instant.HasPlainZone)
    (hshown : instant.formatStored format = .ok shown) :
    ∃ pattern : NamePattern, format.pattern = .ok pattern ∧ pattern.Covers shown := by
  rw [formatStored] at hshown
  rw [StoredText.pattern]
  rw [StoredText.showsZone] at hzone
  obtain ⟨pieces, hpieces, hshown⟩ := bind_eq_ok_iff.1 hshown
  rw [hpieces] at hzone ⊢
  split at hshown
  · next texts htexts =>
    obtain rfl := Except.ok.inj hshown
    exact ⟨_, rfl, covers_of_showPieces h hzone htexts⟩
  · cases hshown

/-- A format that is a text has a pattern, which covers what the format shows. -/
theorem covers_of_format {format shown : Text}
    (hzone : (StoredText.text format).showsZone = true → instant.HasPlainZone)
    (hshown : instant.formatStored (.text format) = .ok shown) :
    (formatPattern format).Covers shown := by
  obtain ⟨pattern, hpattern, hcovers⟩ := covers_of_formatStored h hzone hshown
  obtain rfl := Except.ok.inj hpattern
  exact hcovers

end

/-- Clocks on UTC are in a zone whose name has only letters. -/
theorem hasPlainZone_of_isUtc (hlocal : instant.offset = none) (hutc : LocalZone.IsUtc) :
    instant.HasPlainZone := by
  intro name hname
  rw [zoneName, hlocal] at hname
  obtain ⟨point, -, hname⟩ := bind_eq_ok_iff.1 hname
  obtain rfl := Except.ok.inj hname
  have halpha : "UTC".toList.all Char.isAlpha = true := by decide
  rw [hutc.nameAt_eq]
  exact List.all_eq_true.1 halpha

/-- Where the clocks show UTC, the pattern of a format takes all that the format shows, as it
appears in a file name.  It also takes the text as it is, when cleaning deletes no character of
the format. -/
theorem takes_of_format (h : instant.IsSinceEpoch) (hutc : LocalZone.IsUtc)
    {format shown : Text} (hshown : instant.format format = .ok shown) :
    ((formatPattern format).Takes (cleanCharacters shown) ∧
        (formatPattern format).accepts (cleanCharacters shown) = true) ∧
      ((∀ c ∈ format, cleanChar? c ≠ none) →
        (formatPattern format).Takes shown ∧ (formatPattern format).accepts shown = true) := by
  have hcounted := h.isCounted hutc
  have hzone := hasPlainZone_of_isUtc h.isLocal hutc
  have haccepts {text : Text} (htakes : (formatPattern format).Takes text) :
      (formatPattern format).Takes text ∧ (formatPattern format).accepts text = true :=
    ⟨htakes, accepts_iff.2 ⟨text, htakes, Or.inl rfl⟩⟩
  rw [Instant.format] at hshown
  obtain ⟨texts, htexts, hshown⟩ := bind_eq_ok_iff.1 hshown
  obtain rfl := Except.ok.inj hshown
  refine ⟨haccepts (covers_of_showPieces hcounted (fun _ => hzone) htexts),
    fun hkept => haccepts ?_⟩
  refine takes_of_showPieces id rfl (fun _ _ => rfl) ?_ htexts
  intro piece hpiece text htext
  apply takes_of_showPiece hcounted (fun _ => hzone) _ htext
  intro c hc
  apply hkept c
  rw [← flatMap_formatPieces format]
  exact List.mem_flatMap.2 ⟨piece, hpiece, hc⟩

end

section

attribute [local instance] LocalZone.utc

/-- In the last year of the calendar the ISO week is shown, and its pattern takes it. -/
theorem takes_of_format_lastDay :
    (⟨⟨9999, 12, 31, by decide⟩, ⟨23, 59, 59, 0, by decide⟩, none, false⟩ : Instant).IsSinceEpoch ∧
      LocalZone.IsUtc ∧
      (⟨⟨9999, 12, 31, by decide⟩, ⟨23, 59, 59, 0, by decide⟩, none, false⟩ : Instant).format
        "GGGG-WW|HH:mm".toList = .ok "9999-52|23:59".toList ∧
      (formatPattern "GGGG-WW|HH:mm".toList).accepts "9999-52∣23⦂59".toList = true ∧
      (formatPattern "GGGG-WW|HH:mm".toList).accepts "9999-52|23:59".toList = true := by
  have hepoch : (⟨⟨9999, 12, 31, by decide⟩, ⟨23, 59, 59, 0, by decide⟩, none, false⟩ :
      Instant).IsSinceEpoch := by
    decide +kernel
  have hutc : LocalZone.IsUtc := ⟨fun _ => rfl, fun _ => rfl⟩
  have hshown : (⟨⟨9999, 12, 31, by decide⟩, ⟨23, 59, 59, 0, by decide⟩, none, false⟩ :
      Instant).format "GGGG-WW|HH:mm".toList = .ok "9999-52|23:59".toList := by
    decide +kernel
  have hclean : cleanCharacters "9999-52|23:59".toList = "9999-52∣23⦂59".toList := by decide
  have hkept : "GGGG-WW|HH:mm".toList.all (fun c => (cleanChar? c).isSome) = true := by decide
  obtain ⟨⟨-, haccepts⟩, hraw⟩ := takes_of_format hepoch hutc hshown
  rw [hclean] at haccepts
  refine ⟨hepoch, hutc, hshown, haccepts, (hraw fun c hc => ?_).2⟩
  exact Option.isSome_iff_ne_none.1 (List.all_eq_true.1 hkept c hc)

end

end Instant

end NoteTemplate
