import NoteTemplate.Proofs.Number.Scripts
import NoteTemplate.Proofs.Value.PickerShapes

/-!
# What is read as a date

A text is read as a date exactly when it shows the date with hyphens, and as a date with time
exactly when it shows these in the formats of ISO 8601.  Two things are accepted beside the shape
itself: digits of any script, and one line feed at the end.  So an entered text is the shape
exactly when it has neither (`readDate?_readDatetime?_iff`).
-/

namespace NoteTemplate

variable {text shown more rest : Text} {c : Char} {n width : Nat} {date : Date} {time : ClockTime}
  {instant : Instant}

/-- A local instant without a fraction of a second, the first one that the clocks show so. -/
def Instant.IsFirstLocalSecond (instant : Instant) : Prop :=
  instant.IsLocalSecond ∧ instant.isLater = false

/-- At the start of the text stands what is shown, in digits of any script, and the rest follows. -/
def Writes (text shown rest : Text) : Prop :=
  ∃ written, written.map asciiDigit = shown ∧ text = written ++ rest

/-- The text is what is shown, in digits of any script, and a line feed may follow. -/
def IsEnteredAs (text shown : Text) : Prop := Writes text shown [] ∨ Writes text shown ['\n']

/-- All digits are those of ASCII, and there is no line feed. -/
structure IsPlainlyEntered (text : Text) : Prop where
  ascii_digits : ∀ c ∈ text, isDigit c = true → c.isDigit = true
  no_lineFeed : '\n' ∉ text

/-! ### What is written for what is shown -/

theorem writes_append_iff :
    Writes text (shown ++ more) rest ↔
      ∃ middle, Writes text shown middle ∧ Writes middle more rest := by
  constructor
  · rintro ⟨written, hshown, rfl⟩
    obtain ⟨front, behind, rfl, hfront, hbehind⟩ := List.map_eq_append_iff.1 hshown
    exact ⟨behind ++ rest, ⟨front, hfront, List.append_assoc _ _ _⟩, behind, hbehind, rfl⟩
  · rintro ⟨_, ⟨front, rfl, rfl⟩, behind, rfl, rfl⟩
    exact ⟨front ++ behind, List.map_append, (List.append_assoc _ _ _).symm⟩

theorem writes_cons_iff (hc : isDigit c = false) :
    Writes text (c :: more) rest ↔ ∃ middle, text = c :: middle ∧ Writes middle more rest := by
  constructor
  · rintro ⟨written, hshown, rfl⟩
    obtain ⟨d, behind, rfl, hd, hbehind⟩ := List.map_eq_cons_iff.1 hshown
    obtain rfl := (asciiDigit_eq_iff hc).1 hd
    exact ⟨behind ++ rest, rfl, behind, hbehind, rfl⟩
  · rintro ⟨_, rfl, behind, rfl, rfl⟩
    exact ⟨c :: behind, by rw [List.map_cons, asciiDigit_of_not_isDigit hc], rfl⟩

/-- What shows only ASCII digits and no line feed is entered as itself exactly when it is entered
plainly. -/
theorem IsEnteredAs.eq_iff (h : IsEnteredAs text shown) (hshown : IsPlainlyEntered shown) :
    shown = text ↔ IsPlainlyEntered text := by
  constructor
  · rintro rfl
    exact hshown
  · intro hplain
    rcases h with ⟨written, rfl, rfl⟩ | ⟨written, rfl, rfl⟩
    · rw [List.append_nil] at hplain ⊢
      rw [List.map_congr_left fun c hc => asciiDigit_eq_self_iff.2 (hplain.ascii_digits c hc),
        List.map_id']
    · exact absurd (by simp) hplain.no_lineFeed

namespace Picker

/-! ### Taking one part -/

theorem takeChar?_eq_some_iff : takeChar? c text = some rest ↔ text = c :: rest := by
  cases text with
  | nil => simp [takeChar?]
  | cons d text =>
    rw [takeChar?]
    split
    · next heq => simp [heq]
    · next hne => simp [hne]

theorem isEnd_iff : isEnd rest = true ↔ rest = [] ∨ rest = ['\n'] := by
  simp [isEnd]

theorem takeDigits?_eq_some_iff :
    takeDigits? width text = some (n, rest) ↔
      ∃ digits, digits.length = width ∧ (∀ c ∈ digits, isDigit c = true) ∧
        digitsValue digits = n ∧ text = digits ++ rest := by
  constructor
  · intro h
    rw [takeDigits?] at h
    split at h
    · next hdigits =>
      obtain ⟨rfl, rfl⟩ := by simpa using h
      exact ⟨_, hdigits.1, List.all_eq_true.1 hdigits.2, rfl, (List.take_append_drop _ _).symm⟩
    · cases h
  · rintro ⟨digits, rfl, hdigits, rfl, rfl⟩
    exact takeDigits?_append hdigits rest

theorem takeDigits?_iff_writes (hpos : 0 < width) (h : n < 10 ^ width) :
    takeDigits? width text = some (n, rest) ↔ Writes text (paddedDecimal width n) rest := by
  rw [takeDigits?_eq_some_iff, Writes]
  simp only [map_asciiDigit_eq_paddedDecimal_iff hpos h, and_assoc]

/-- A date is taken from what shows it, and from nothing else. -/
theorem takeDate?_iff_writes :
    takeDate? text = some (date, rest) ↔ Writes text date.dashed rest := by
  obtain ⟨-, hyear, -, hmonth, -, hday⟩ := date.exists_day
  have hlength := daysInMonth_le date.year date.month
  have hdash : isDigit '-' = false := by decide
  rw [takeDate?, Date.dashed]
  simp only [Option.bind_eq_bind, Option.bind_eq_some_iff, Prod.exists, takeChar?_eq_some_iff,
    Date.ofNumbers?_eq_some_iff, Option.pure_def, Option.some.injEq, Prod.mk.injEq,
    writes_append_iff, writes_cons_iff hdash]
  have htakeYear {text rest : Text} : takeDigits? 4 text = some (date.year, rest) ↔
      Writes text (paddedDecimal 4 date.year) rest :=
    takeDigits?_iff_writes (by decide) (by omega)
  have htakeMonth {text rest : Text} : takeDigits? 2 text = some (date.month, rest) ↔
      Writes text (paddedDecimal 2 date.month) rest :=
    takeDigits?_iff_writes (by decide) (by omega)
  have htakeDay {text rest : Text} : takeDigits? 2 text = some (date.day, rest) ↔
      Writes text (paddedDecimal 2 date.day) rest :=
    takeDigits?_iff_writes (by decide) (by omega)
  constructor
  · rintro ⟨_, _, hyears, behindYear, rfl, _, _, hmonths, behindMonth, rfl, _, _, hdays, _,
      ⟨rfl, rfl, rfl⟩, rfl, rfl⟩
    exact ⟨_, htakeYear.1 hyears, behindYear, rfl, _, htakeMonth.1 hmonths, behindMonth, rfl,
      htakeDay.1 hdays⟩
  · rintro ⟨_, hyears, behindYear, rfl, _, hmonths, behindMonth, rfl, hdays⟩
    exact ⟨_, _, htakeYear.2 hyears, behindYear, rfl, _, _, htakeMonth.2 hmonths, behindMonth, rfl,
      _, _, htakeDay.2 hdays, date, ⟨rfl, rfl, rfl⟩, rfl, rfl⟩

theorem bind_time_eq_some_iff {hour minute second : Nat} :
    ((ClockTime.ofNumbers? hour minute second 0).bind fun time =>
      pure (⟨date, time, none, false⟩ : Instant)) = some instant ↔
      instant.IsFirstLocalSecond ∧ instant.date = date ∧ instant.time.hour = hour ∧
        instant.time.minute = minute ∧ instant.time.second = second := by
  obtain ⟨stood, clock, offset, isLater⟩ := instant
  simp only [Option.bind_eq_some_iff, ClockTime.ofNumbers?_eq_some_iff, Option.pure_def,
    Option.some.injEq, Instant.mk.injEq, Instant.IsFirstLocalSecond, Instant.IsLocalSecond]
  constructor
  · rintro ⟨_, ⟨hhour, hminute, hsecond, hmicrosecond⟩, rfl, rfl, rfl, rfl⟩
    exact ⟨⟨⟨rfl, hmicrosecond⟩, rfl⟩, rfl, hhour, hminute, hsecond⟩
  · rintro ⟨⟨⟨rfl, hmicrosecond⟩, rfl⟩, rfl, hhour, hminute, hsecond⟩
    exact ⟨_, ⟨hhour, hminute, hsecond, hmicrosecond⟩, rfl, rfl, rfl, rfl⟩

end Picker

open Picker

/-! ### Reading -/

theorem isEnteredAs_iff :
    IsEnteredAs text shown ↔ ∃ rest, Writes text shown rest ∧ isEnd rest = true := by
  simp only [IsEnteredAs, isEnd_iff]
  constructor
  · rintro (h | h)
    · exact ⟨_, h, Or.inl rfl⟩
    · exact ⟨_, h, Or.inr rfl⟩
  · rintro ⟨_, h, rfl | rfl⟩
    · exact Or.inl h
    · exact Or.inr h

theorem readDate?_iff_isEnteredAs : readDate? text = some date ↔ IsEnteredAs text date.dashed := by
  rw [readDate?, isEnteredAs_iff]
  simp only [Option.bind_eq_bind, Option.bind_eq_some_iff, Prod.exists, takeDate?_iff_writes]
  constructor
  · rintro ⟨found, rest, hwrites, hend⟩
    split at hend
    · next hrest =>
      obtain rfl := Option.some.inj hend
      exact ⟨rest, hwrites, hrest⟩
    · cases hend
  · rintro ⟨rest, hwrites, hrest⟩
    exact ⟨date, rest, hwrites, if_pos hrest⟩

/-- Hour and minute with a colon between them. -/
def ClockTime.hourMinute (time : ClockTime) : Text :=
  paddedDecimal 2 time.hour ++ ':' :: paddedDecimal 2 time.minute

/-- Hour, minute and second with colons between them. -/
def ClockTime.hourMinuteSecond (time : ClockTime) : Text :=
  time.hourMinute ++ ':' :: paddedDecimal 2 time.second

/-- What can stand behind the minute: the end of the text, or the second and then the end. -/
def EndsWithSecond (rest : Text) (second : Nat) : Prop :=
  isEnd rest = true ∧ second = 0 ∨
    ∃ behind last, rest = ':' :: behind ∧ takeDigits? 2 behind = some (second, last) ∧
      isEnd last = true

theorem readDatetime?_eq_some_iff :
    readDatetime? text = some instant ↔
      instant.IsFirstLocalSecond ∧ ∃ middle,
        Writes text (instant.date.dashed ++ 'T' :: instant.time.hourMinute) middle ∧
        EndsWithSecond middle instant.time.second := by
  obtain ⟨hhour, hminute, hsecond, -⟩ := instant.time.exists_time
  have hletter : isDigit 'T' = false := by decide
  have hcolon : isDigit ':' = false := by decide
  have htakeHour {text rest : Text} : takeDigits? 2 text = some (instant.time.hour, rest) ↔
      Writes text (paddedDecimal 2 instant.time.hour) rest :=
    takeDigits?_iff_writes (by decide) (by omega)
  have htakeMinute {text rest : Text} : takeDigits? 2 text = some (instant.time.minute, rest) ↔
      Writes text (paddedDecimal 2 instant.time.minute) rest :=
    takeDigits?_iff_writes (by decide) (by omega)
  rw [readDatetime?]
  simp only [Option.bind_eq_bind, Option.bind_eq_some_iff, Prod.exists, takeDate?_iff_writes,
    takeChar?_eq_some_iff, ClockTime.hourMinute, writes_append_iff, writes_cons_iff hletter,
    writes_cons_iff hcolon]
  constructor
  · rintro ⟨_, _, hdate, behindDate, rfl, _, _, hhours, behindHour, rfl, _, behindMinute, hminutes,
      hlast⟩
    split at hlast
    · next hend =>
      rw [Option.bind_some, if_pos hend, bind_time_eq_some_iff] at hlast
      obtain ⟨hlocal, rfl, rfl, rfl, hzero⟩ := hlast
      exact ⟨hlocal, behindMinute, ⟨_, hdate, behindDate, rfl, _, htakeHour.1 hhours, behindHour,
        rfl, htakeMinute.1 hminutes⟩, Or.inl ⟨hend, hzero⟩⟩
    · obtain ⟨⟨second, last⟩, htake, hlast⟩ := Option.bind_eq_some_iff.1 hlast
      obtain ⟨behind, hbehind, hseconds⟩ := Option.bind_eq_some_iff.1 htake
      rw [takeChar?_eq_some_iff] at hbehind
      split at hlast
      · next hend =>
        rw [bind_time_eq_some_iff] at hlast
        obtain ⟨hlocal, rfl, rfl, rfl, rfl⟩ := hlast
        exact ⟨hlocal, behindMinute, ⟨_, hdate, behindDate, rfl, _, htakeHour.1 hhours, behindHour,
          rfl, htakeMinute.1 hminutes⟩, Or.inr ⟨behind, last, hbehind, hseconds, hend⟩⟩
      · cases hlast
  · rintro ⟨hlocal, behindMinute, ⟨_, hdate, behindDate, rfl, _, hhours, behindHour, rfl, hminutes⟩,
      hend⟩
    refine ⟨_, _, hdate, behindDate, rfl, _, _, htakeHour.2 hhours, behindHour, rfl, _,
      behindMinute, htakeMinute.2 hminutes, ?_⟩
    rcases hend with ⟨hend, hzero⟩ | ⟨behind, last, rfl, hseconds, hlast⟩
    · rw [if_pos hend, Option.bind_some, if_pos hend, bind_time_eq_some_iff]
      exact ⟨hlocal, rfl, rfl, rfl, hzero⟩
    · have hopen : ¬isEnd (':' :: behind) = true := by simp [isEnd]
      rw [if_neg hopen, takeChar?_cons, Option.bind_some, hseconds, Option.bind_some, if_pos hlast,
        bind_time_eq_some_iff]
      exact ⟨hlocal, rfl, rfl, rfl, rfl⟩

theorem exists_endsWithSecond_iff :
    (∃ middle, Writes text shown middle ∧ EndsWithSecond middle time.second) ↔
      time.second = 0 ∧ IsEnteredAs text shown ∨
        IsEnteredAs text (shown ++ ':' :: paddedDecimal 2 time.second) := by
  have hcolon : isDigit ':' = false := by decide
  have hsecond := time.exists_time.2.2.1
  have htake {text rest : Text} : takeDigits? 2 text = some (time.second, rest) ↔
      Writes text (paddedDecimal 2 time.second) rest :=
    takeDigits?_iff_writes (by decide) (by omega)
  simp only [isEnteredAs_iff, writes_append_iff, writes_cons_iff hcolon, EndsWithSecond]
  constructor
  · rintro ⟨middle, hshown, ⟨hend, hzero⟩ | ⟨behind, last, rfl, hseconds, hlast⟩⟩
    · exact Or.inl ⟨hzero, middle, hshown, hend⟩
    · exact Or.inr ⟨last, ⟨_, hshown, behind, rfl, htake.1 hseconds⟩, hlast⟩
  · rintro (⟨hzero, middle, hshown, hend⟩ | ⟨last, ⟨middle, hshown, behind, rfl, hseconds⟩, hlast⟩)
    · exact ⟨middle, hshown, Or.inl ⟨hend, hzero⟩⟩
    · exact ⟨_, hshown, Or.inr ⟨behind, last, rfl, htake.2 hseconds, hlast⟩⟩

/-- A date with time is read from what shows it to the second, or, if it is on a whole minute,
from what shows it without the second. -/
theorem readDatetime?_iff_isEnteredAs :
    readDatetime? text = some instant ↔
      instant.IsFirstLocalSecond ∧
        (instant.time.second = 0 ∧
            IsEnteredAs text (instant.date.dashed ++ 'T' :: instant.time.hourMinute) ∨
          IsEnteredAs text (instant.date.dashed ++ 'T' :: instant.time.hourMinuteSecond)) := by
  have hlong : instant.date.dashed ++ 'T' :: instant.time.hourMinuteSecond =
      (instant.date.dashed ++ 'T' :: instant.time.hourMinute) ++
        ':' :: paddedDecimal 2 instant.time.second := by
    simp [ClockTime.hourMinuteSecond]
  rw [readDatetime?_eq_some_iff, exists_endsWithSecond_iff, hlong]

/-! ### The shapes -/

theorem format_of_formatStored [LocalZone] {format : Text}
    (h : instant.formatStored (.text format) = .ok shown) : instant.format format = .ok shown := by
  rw [Instant.formatStored_text] at h
  cases hformat : instant.format format with
  | error error =>
    rw [hformat] at h
    cases h
  | ok found =>
    rw [hformat] at h
    exact congrArg Except.ok (Except.ok.inj h)

theorem format_date [LocalZone] (date : Date) :
    date.start.format "YYYY-MM-DD".toList = .ok date.dashed :=
  format_of_formatStored (formatStored_date date.start)

theorem format_minute [LocalZone] (instant : Instant) :
    instant.format "YYYY-MM-DDTHH:mm".toList =
      .ok (instant.date.dashed ++ 'T' :: instant.time.hourMinute) := by
  have hpieces : formatPieces "YYYY-MM-DDTHH:mm".toList =
      [.token .year4, .literal ['-'], .token .month2, .literal ['-'], .token .day2,
       .literal ['T'], .token .hour2, .literal [':'], .token .minute2] := by
    decide
  apply format_of_formatStored
  rw [formatStored_of_pieces hpieces rfl]
  simp [Date.dashed, ClockTime.hourMinute]

theorem format_second [LocalZone] (instant : Instant) :
    instant.format "YYYY-MM-DDTHH:mm:ss".toList =
      .ok (instant.date.dashed ++ 'T' :: instant.time.hourMinuteSecond) := by
  have hpieces : formatPieces "YYYY-MM-DDTHH:mm:ss".toList =
      [.token .year4, .literal ['-'], .token .month2, .literal ['-'], .token .day2,
       .literal ['T'], .token .hour2, .literal [':'], .token .minute2, .literal [':'],
       .token .second2] := by
    decide
  apply format_of_formatStored
  rw [formatStored_of_pieces hpieces rfl]
  simp [Date.dashed, ClockTime.hourMinute, ClockTime.hourMinuteSecond]

namespace IsPlainlyEntered

theorem paddedDecimal (width n : Nat) : IsPlainlyEntered (paddedDecimal width n) where
  ascii_digits c hc _ := isDigit_of_mem_paddedDecimal hc
  no_lineFeed hmem := by
    have hdigit := isDigit_of_mem_paddedDecimal hmem
    revert hdigit
    decide

theorem append_cons (h : IsPlainlyEntered shown) (hmore : IsPlainlyEntered more)
    (hc : isDigit c = false) (hne : c ≠ '\n') : IsPlainlyEntered (shown ++ c :: more) where
  ascii_digits d hd hdigit := by
    rcases List.mem_append.1 hd with hd | hd
    · exact h.ascii_digits d hd hdigit
    · rcases List.mem_cons.1 hd with rfl | hd
      · rw [hc] at hdigit
        cases hdigit
      · exact hmore.ascii_digits d hd hdigit
  no_lineFeed hmem := by
    rcases List.mem_append.1 hmem with hmem | hmem
    · exact h.no_lineFeed hmem
    · rcases List.mem_cons.1 hmem with heq | hmem
      · exact hne heq.symm
      · exact hmore.no_lineFeed hmem

theorem dashed (date : Date) : IsPlainlyEntered date.dashed :=
  (paddedDecimal 4 date.year).append_cons
    ((paddedDecimal 2 date.month).append_cons (paddedDecimal 2 date.day) (by decide) (by decide))
    (by decide) (by decide)

theorem hourMinute (time : ClockTime) : IsPlainlyEntered time.hourMinute :=
  (paddedDecimal 2 time.hour).append_cons (paddedDecimal 2 time.minute) (by decide) (by decide)

theorem hourMinuteSecond (time : ClockTime) : IsPlainlyEntered time.hourMinuteSecond :=
  (hourMinute time).append_cons (paddedDecimal 2 time.second) (by decide) (by decide)

end IsPlainlyEntered

/-- The text is the instant in the formats of ISO 8601: to the second, or to the minute if there
are no seconds. -/
def Instant.IsIsoText [LocalZone] (instant : Instant) (shown : Text) : Prop :=
  instant.format "YYYY-MM-DDTHH:mm:ss".toList = .ok shown ∨
    instant.time.second = 0 ∧ instant.format "YYYY-MM-DDTHH:mm".toList = .ok shown

theorem Instant.isIsoText_iff [LocalZone] :
    instant.IsIsoText shown ↔
      shown = instant.date.dashed ++ 'T' :: instant.time.hourMinuteSecond ∨
        instant.time.second = 0 ∧
          shown = instant.date.dashed ++ 'T' :: instant.time.hourMinute := by
  rw [IsIsoText, format_second, format_minute]
  simp only [Except.ok.injEq, eq_comm]

theorem Instant.IsIsoText.isPlainlyEntered [LocalZone] (h : instant.IsIsoText shown) :
    IsPlainlyEntered shown := by
  rcases Instant.isIsoText_iff.1 h with rfl | ⟨-, rfl⟩
  · exact (IsPlainlyEntered.dashed _).append_cons (.hourMinuteSecond _) (by decide) (by decide)
  · exact (IsPlainlyEntered.dashed _).append_cons (.hourMinute _) (by decide) (by decide)

theorem readDatetime?_iff_exists_isIsoText [LocalZone] :
    readDatetime? text = some instant ↔
      instant.IsFirstLocalSecond ∧ ∃ shown, instant.IsIsoText shown ∧ IsEnteredAs text shown := by
  rw [readDatetime?_iff_isEnteredAs]
  refine and_congr_right fun _ => ?_
  simp only [Instant.isIsoText_iff]
  constructor
  · rintro (⟨hzero, h⟩ | h)
    · exact ⟨_, Or.inr ⟨hzero, rfl⟩, h⟩
    · exact ⟨_, Or.inl rfl, h⟩
  · rintro ⟨_, rfl | ⟨hzero, rfl⟩, h⟩
    · exact Or.inr h
    · exact Or.inl ⟨hzero, h⟩

/-- A text is read as a date, or as a date with time, exactly when it is the shape of the value in
digits of any script with or without a line feed behind it.  Such a text is the shape itself
exactly when its digits are those of ASCII and there is no line feed. -/
theorem readDate?_readDatetime?_iff [LocalZone] (text : Text) :
    (∀ date : Date, readDate? text = some date ↔
      ∃ shown, date.start.format "YYYY-MM-DD".toList = .ok shown ∧ IsEnteredAs text shown) ∧
    (∀ instant : Instant, readDatetime? text = some instant ↔
      instant.IsFirstLocalSecond ∧ ∃ shown, instant.IsIsoText shown ∧ IsEnteredAs text shown) ∧
    (∀ date : Date, readDate? text = some date →
      (date.start.format "YYYY-MM-DD".toList = .ok text ↔ IsPlainlyEntered text)) ∧
    ∀ instant : Instant, readDatetime? text = some instant →
      (instant.IsIsoText text ↔ IsPlainlyEntered text) := by
  refine ⟨fun date => ?_, fun instant => readDatetime?_iff_exists_isIsoText, fun date h => ?_,
    fun instant h => ⟨fun hshape => hshape.isPlainlyEntered, fun hplain => ?_⟩⟩
  · rw [readDate?_iff_isEnteredAs, format_date]
    simp
  · rw [format_date, Except.ok.injEq]
    exact (readDate?_iff_isEnteredAs.1 h).eq_iff (.dashed date)
  · obtain ⟨-, shown, hshown, hentered⟩ := readDatetime?_iff_exists_isIsoText.1 h
    obtain rfl := (hentered.eq_iff hshown.isPlainlyEntered).2 hplain
    exact hshown

section

attribute [local instance] LocalZone.utc

/-- The leap day in Arabic digits. -/
def arabicLeapDay : Text := "٢٠٢٤-٠٢-٢٩".toList

theorem readDate?_arabicLeapDay :
    readDate? arabicLeapDay = some leapDay ∧
      (leapDay.start.format "YYYY-MM-DD".toList = .ok arabicLeapDay ↔
        IsPlainlyEntered arabicLeapDay) := by
  have hread : readDate? arabicLeapDay = some leapDay := by decide
  exact ⟨hread, (readDate?_readDatetime?_iff arabicLeapDay).2.2.1 leapDay hread⟩

/-- A line feed behind the shape, and digits of another script, are accepted although they do not
belong to the shape. -/
theorem readDate?_beside_shape :
    (readDate? "2024-02-29\n".toList = some leapDay ∧
        leapDay.start.format "YYYY-MM-DD".toList ≠ .ok "2024-02-29\n".toList) ∧
      (readDate? "٢٠٢٤-٠٢-٢٩".toList = some leapDay ∧
        leapDay.start.format "YYYY-MM-DD".toList ≠ .ok "٢٠٢٤-٠٢-٢٩".toList) ∧
      readDatetime? "2024-02-29T23:59:59\n".toList = some leapDayEnd ∧
      leapDayEnd.format "YYYY-MM-DDTHH:mm:ss".toList ≠ .ok "2024-02-29T23:59:59\n".toList ∧
      leapDayEnd.format "YYYY-MM-DDTHH:mm".toList ≠ .ok "2024-02-29T23:59:59\n".toList := by
  rw [format_date, format_second, format_minute]
  decide

end

end NoteTemplate
