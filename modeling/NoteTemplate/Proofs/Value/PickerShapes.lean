import NoteTemplate.Proofs.Calendar.Bounds
import NoteTemplate.Proofs.Number.Decimal
import NoteTemplate.Value.Output

/-!
# What the pickers show is read back

The default format of a date, the formats of a time with hour and minute, and the ISO formats of
a date with time write the shapes in which values are entered.  Showing a value in such a format
succeeds, and reading what was shown gives the value again (`read_shown_picker_values`).  A time
is shown without its seconds, so it has to be on a whole minute, and a date with time without the
fraction of its second.  Of two instants that the clocks show alike the first one is read.
-/

namespace NoteTemplate

variable {n width : Nat} {time : ClockTime} {instant : Instant}

/-- No seconds and no fraction of them. -/
def ClockTime.IsWholeMinute (time : ClockTime) : Prop := time.second = 0 ∧ time.microsecond = 0

/-- A local instant without a fraction of a second. -/
def Instant.IsLocalSecond (instant : Instant) : Prop :=
  instant.offset = none ∧ instant.time.microsecond = 0

theorem ClockTime.ofNumbers?_eq_some_iff {hour minute second microsecond : Nat} :
    ofNumbers? hour minute second microsecond = some time ↔
      time.hour = hour ∧ time.minute = minute ∧ time.second = second ∧
        time.microsecond = microsecond := by
  obtain ⟨_, _, _, _, hexists⟩ := time
  rw [ofNumbers?]
  split
  · simp only [Option.some.injEq, ClockTime.mk.injEq, eq_comm]
  · next hnone =>
    simp only [reduceCtorEq, false_iff]
    rintro ⟨rfl, rfl, rfl, rfl⟩
    exact hnone hexists

theorem ClockTime.IsWholeMinute.ofNumbers?_eq (h : time.IsWholeMinute) :
    ofNumbers? time.hour time.minute 0 0 = some time :=
  ofNumbers?_eq_some_iff.2 ⟨rfl, rfl, h⟩

/-! ### What is shown -/

/-- Year, month and day with hyphens between them. -/
def Date.dashed (date : Date) : Text :=
  paddedDecimal 4 date.year ++ '-' :: (paddedDecimal 2 date.month ++
    '-' :: paddedDecimal 2 date.day)

/-- The word for the half of the day. -/
def ClockTime.half (time : ClockTime) : Text :=
  if time.hour < 12 then ['A', 'M'] else ['P', 'M']

section

variable [LocalZone]

theorem formatStored_of_pieces {format : Text} {pieces : List FormatPiece} {texts : List Text}
    (hpieces : formatPieces format = pieces)
    (htexts : pieces.mapM instant.showPiece = .ok texts) :
    instant.formatStored (.text format) = .ok texts.flatten := by
  rw [Instant.formatStored_text, Instant.format, hpieces, htexts]
  rfl

theorem formatStored_date (instant : Instant) :
    instant.formatStored (.text "YYYY-MM-DD".toList) = .ok instant.date.dashed := by
  have hpieces : formatPieces "YYYY-MM-DD".toList =
      [.token .year4, .literal ['-'], .token .month2, .literal ['-'], .token .day2] := by decide
  rw [formatStored_of_pieces hpieces rfl]
  simp [Date.dashed]

theorem formatStored_hour_minute (instant : Instant) :
    instant.formatStored (.text "HH:mm".toList) =
      .ok (paddedDecimal 2 instant.time.hour ++ ':' :: paddedDecimal 2 instant.time.minute) := by
  have hpieces : formatPieces "HH:mm".toList =
      [.token .hour2, .literal [':'], .token .minute2] := by decide
  rw [formatStored_of_pieces hpieces rfl]
  simp

theorem formatStored_half_day (instant : Instant) :
    instant.formatStored (.text "h:mm A".toList) =
      .ok (decimal instant.time.hour12 ++
        ':' :: (paddedDecimal 2 instant.time.minute ++ ' ' :: instant.time.half)) := by
  have hpieces : formatPieces "h:mm A".toList =
      [.token .halfDayHour, .literal [':'], .token .minute2, .literal [' '],
       .token .upperHalf] := by
    decide
  rw [formatStored_of_pieces hpieces rfl]
  simp [ClockTime.half]

theorem formatStored_half_day_padded (instant : Instant) :
    instant.formatStored (.text "hh:mm A".toList) =
      .ok (paddedDecimal 2 instant.time.hour12 ++
        ':' :: (paddedDecimal 2 instant.time.minute ++ ' ' :: instant.time.half)) := by
  have hpieces : formatPieces "hh:mm A".toList =
      [.token .halfDayHour2, .literal [':'], .token .minute2, .literal [' '],
       .token .upperHalf] := by
    decide
  rw [formatStored_of_pieces hpieces rfl]
  simp [ClockTime.half]

theorem formatStored_second (instant : Instant) :
    instant.formatStored (.text "HH:mm:ss".toList) =
      .ok (paddedDecimal 2 instant.time.hour ++ ':' :: (paddedDecimal 2 instant.time.minute ++
        ':' :: paddedDecimal 2 instant.time.second)) := by
  have hpieces : formatPieces "HH:mm:ss".toList =
      [.token .hour2, .literal [':'], .token .minute2, .literal [':'], .token .second2] := by
    decide
  rw [formatStored_of_pieces hpieces rfl]
  simp

/-! ### Reading one part -/

end

namespace Picker

@[simp]
theorem takeChar?_cons (c : Char) (rest : Text) : takeChar? c (c :: rest) = some rest := if_pos rfl

theorem takeDigits?_append {digits : Text} (h : ∀ c ∈ digits, isDigit c = true) (rest : Text) :
    takeDigits? digits.length (digits ++ rest) = some (digitsValue digits, rest) := by
  have hall : digits.all isDigit = true := List.all_eq_true.2 h
  rw [takeDigits?, List.take_left, List.drop_left]
  exact if_pos ⟨rfl, hall⟩

theorem takeDigits?_paddedDecimal (hpos : 0 < width) (h : n < 10 ^ width) (rest : Text) :
    takeDigits? width (paddedDecimal width n ++ rest) = some (n, rest) := by
  have hdigits : ∀ c ∈ paddedDecimal width n, isDigit c = true := fun _ hc =>
    isDigit_of_isDigit (isDigit_of_mem_paddedDecimal hc)
  have htake := takeDigits?_append hdigits rest
  rwa [length_paddedDecimal_of_lt hpos h, digitsValue_paddedDecimal] at htake

theorem takeDigits?_paddedDecimal_end (hpos : 0 < width) (h : n < 10 ^ width) :
    takeDigits? width (paddedDecimal width n) = some (n, []) := by
  simpa using takeDigits?_paddedDecimal hpos h []

/-- A numeral with zeros in front is taken with both its digits. -/
theorem takeOneOrTwoDigits?_paddedDecimal (h : n < 100) (rest : Text) :
    takeOneOrTwoDigits? (paddedDecimal 2 n ++ rest) = some (n, rest) := by
  rw [takeOneOrTwoDigits?, takeDigits?_paddedDecimal (by decide) h]

/-- A numeral without zeros in front has one digit or two, and what stands behind it is no
digit. -/
theorem takeOneOrTwoDigits?_decimal (h : n < 100) (rest : Text) :
    takeOneOrTwoDigits? (decimal n ++ ':' :: rest) = some (n, ':' :: rest) := by
  have hdigits : ∀ c ∈ decimal n, isDigit c = true := fun _ hc => isDigit_of_mem_digits hc
  have htake := takeDigits?_append hdigits (':' :: rest)
  rw [digitsValue_decimal] at htake
  have hpos : 0 < (decimal n).length := List.length_pos_iff.2 (decimal_ne_nil n)
  have hle : (decimal n).length ≤ 2 := length_decimal_le (by decide) h
  obtain hone | htwo : (decimal n).length = 1 ∨ (decimal n).length = 2 := by omega
  · obtain ⟨digit, hdigit⟩ := List.length_eq_one_iff.1 hone
    have hnone : takeDigits? 2 (decimal n ++ ':' :: rest) = none := by
      rw [hdigit, takeDigits?]
      apply if_neg
      rintro ⟨-, hall⟩
      exact absurd (List.all_eq_true.1 hall ':' (by simp)) (by decide)
    rw [takeOneOrTwoDigits?, hnone, ← htake, hone]
  · rw [takeOneOrTwoDigits?, ← htwo, htake]

theorem takeDate?_dashed (date : Date) (rest : Text) :
    takeDate? (date.dashed ++ rest) = some (date, rest) := by
  obtain ⟨-, hyear, -, hmonth, -, hday⟩ := date.exists_day
  have hdays := daysInMonth_le date.year date.month
  have hself : Date.ofNumbers? date.year date.month date.day = some date :=
    Date.ofNumbers?_eq_some_iff.2 ⟨rfl, rfl, rfl⟩
  rw [Date.dashed, takeDate?]
  simp (disch := omega) [takeDigits?_paddedDecimal, hself]

theorem hourOfHalf_hour12 (time : ClockTime) :
    hourOfHalf time.hour12 (decide (12 ≤ time.hour)) = time.hour := by
  have hhour := time.exists_time.1
  simp only [hourOfHalf, ClockTime.hour12, decide_eq_true_eq]
  grind

theorem takeHalf?_half (time : ClockTime) :
    takeHalf? (Text.trimLeft (' ' :: time.half)) = some (decide (12 ≤ time.hour), []) := by
  rw [ClockTime.half]
  split
  · next hfirst => rw [decide_eq_false (by omega)]; rfl
  · next hsecond => rw [decide_eq_true (by omega)]; rfl

end Picker

/-! ### Reading what was shown -/

open Picker

theorem readDate?_dashed (date : Date) : readDate? date.dashed = some date := by
  have htake := takeDate?_dashed date []
  rw [List.append_nil] at htake
  rw [readDate?, htake]
  rfl

theorem readTime?_hour (h : time.IsWholeMinute) :
    readTime? (paddedDecimal 2 time.hour ++ ':' :: paddedDecimal 2 time.minute) = some time := by
  obtain ⟨hhour, hminute, -⟩ := time.exists_time
  rw [readTime?, takeOneOrTwoDigits?_paddedDecimal (by omega)]
  simp (disch := omega) [takeDigits?_paddedDecimal_end, isEnd, h.ofNumbers?_eq]

/-- An hour on a clock with twelve needs the half of the day behind the minute.  Its numeral may
have a zero in front or not, so it is only known by what is taken from it. -/
theorem readTime?_half (h : time.IsWholeMinute) {hour : Text}
    (hhour : ∀ rest, takeOneOrTwoDigits? (hour ++ ':' :: rest) = some (time.hour12, ':' :: rest)) :
    readTime? (hour ++ ':' :: (paddedDecimal 2 time.minute ++ ' ' :: time.half)) = some time := by
  obtain ⟨-, hminute, -⟩ := time.exists_time
  obtain ⟨hfirst, hlast⟩ := time.hour12_bounds
  rw [readTime?, hhour]
  simp (disch := omega) [takeDigits?_paddedDecimal, isEnd, takeHalf?_half, hourOfHalf_hour12,
    hfirst, hlast, h.ofNumbers?_eq]

theorem readDatetime?_dashed (h : instant.IsLocalSecond) :
    readDatetime? (instant.date.dashed ++ 'T' :: (paddedDecimal 2 instant.time.hour ++
      ':' :: (paddedDecimal 2 instant.time.minute ++ ':' :: paddedDecimal 2 instant.time.second))) =
      some { instant with isLater := false } := by
  obtain ⟨hhour, hminute, hsecond, -⟩ := instant.time.exists_time
  obtain ⟨hlocal, hmicrosecond⟩ := h
  have hself : ClockTime.ofNumbers? instant.time.hour instant.time.minute instant.time.second 0 =
      some instant.time :=
    ClockTime.ofNumbers?_eq_some_iff.2 ⟨rfl, rfl, rfl, hmicrosecond⟩
  rw [readDatetime?, takeDate?_dashed]
  simp (disch := omega) [takeDigits?_paddedDecimal, takeDigits?_paddedDecimal_end, isEnd, hself,
    ← hlocal]

/-! ### Values that are shown and read back -/

section

variable [LocalZone]

theorem readDate?_showDate (date : Date) :
    readDate? <$> showDate (.default .date) date.start = .ok (some date) := by
  have hshow : showDate (.default .date) date.start = .ok date.dashed :=
    formatStored_date date.start
  rw [hshow, Except.map_ok, readDate?_dashed]

theorem readTime?_showTime (today : Date) (h : time.IsWholeMinute) {format : Text}
    (hformat : format ∈ ["HH:mm".toList, "h:mm A".toList, "hh:mm A".toList]) :
    readTime? <$> showTime (.plain format) today time = .ok (some time) := by
  have hhour : time.hour12 < 100 := Nat.lt_of_le_of_lt time.hour12_bounds.2 (by decide)
  simp only [List.mem_cons, List.not_mem_nil, or_false] at hformat
  obtain rfl | rfl | rfl := hformat
  · have hshow : showTime (.plain "HH:mm".toList) today time = _ :=
      formatStored_hour_minute ⟨today, time, none, false⟩
    rw [hshow, Except.map_ok, readTime?_hour h]
  · have hshow : showTime (.plain "h:mm A".toList) today time = _ :=
      formatStored_half_day ⟨today, time, none, false⟩
    rw [hshow, Except.map_ok, readTime?_half h (takeOneOrTwoDigits?_decimal hhour)]
  · have hshow : showTime (.plain "hh:mm A".toList) today time = _ :=
      formatStored_half_day_padded ⟨today, time, none, false⟩
    rw [hshow, Except.map_ok,
      readTime?_half h fun rest => takeOneOrTwoDigits?_paddedDecimal hhour (':' :: rest)]

theorem readDatetime?_showDatetime (h : instant.IsLocalSecond) :
    readDatetime? <$> showDatetime (.plain "YYYY-MM-DD".toList) (.plain "HH:mm:ss".toList) instant =
      .ok (some { instant with isLater := false }) := by
  have hdate : FormatConfig.effective .date (.plain "YYYY-MM-DD".toList) =
      .text "YYYY-MM-DD".toList := rfl
  have htime : FormatConfig.effective .time (.plain "HH:mm:ss".toList) =
      .text "HH:mm:ss".toList := rfl
  simp only [showDatetime, hdate, htime, formatStored_date, formatStored_second, and_self, if_true]
  exact congrArg Except.ok (readDatetime?_dashed h)

/-- What the picker formats show is read back: every date in the default format, every time of
day on a whole minute in the formats of hour and minute, and every local instant on a whole
second in the formats of ISO 8601, as the first one that the clocks show so. -/
theorem read_shown_picker_values (date today : Date) (htime : time.IsWholeMinute)
    (hinstant : instant.IsLocalSecond) :
    readDate? <$> showDate (.default .date) date.start = .ok (some date) ∧
      (∀ format ∈ ["HH:mm".toList, "h:mm A".toList, "hh:mm A".toList],
        readTime? <$> showTime (.plain format) today time = .ok (some time)) ∧
      readDatetime? <$>
          showDatetime (.plain "YYYY-MM-DD".toList) (.plain "HH:mm:ss".toList) instant =
        .ok (some { instant with isLater := false }) :=
  ⟨readDate?_showDate date, fun _ hformat => readTime?_showTime today htime hformat,
    readDatetime?_showDatetime hinstant⟩

end

section

attribute [local instance] LocalZone.utc

/-- A leap day. -/
def leapDay : Date := ⟨2024, 2, 29, by decide⟩

/-- The last second of a leap day. -/
def leapDayEnd : Instant := ⟨leapDay, ⟨23, 59, 59, 0, by decide⟩, none, false⟩

theorem read_shown_leapDay :
    ClockTime.midnight.IsWholeMinute ∧ leapDayEnd.IsLocalSecond ∧
      readDate? <$> showDate (.default .date) leapDay.start = .ok (some leapDay) ∧
      (∀ format ∈ ["HH:mm".toList, "h:mm A".toList, "hh:mm A".toList],
        readTime? <$> showTime (.plain format) leapDay .midnight = .ok (some .midnight)) ∧
      readDatetime? <$>
          showDatetime (.plain "YYYY-MM-DD".toList) (.plain "HH:mm:ss".toList) leapDayEnd =
        .ok (some leapDayEnd) := by
  have hmidnight : ClockTime.midnight.IsWholeMinute := ⟨rfl, rfl⟩
  have hend : leapDayEnd.IsLocalSecond := ⟨rfl, rfl⟩
  exact ⟨hmidnight, hend, read_shown_picker_values leapDay leapDay hmidnight hend⟩

end

end NoteTemplate
