import NoteTemplate.Proofs.Calendar.Recent
import NoteTemplate.Proofs.Format.Covering

/-!
# What a variable shows is covered by its pattern

In a file name every variable shows a text that the pattern of the variable covers: both
use the same formats when the tag has none of its own.  Two things are known of the local zone
only: how it is called, and whether Unix time has the digits that the pattern of the time stamp
counts.  They matter where the tag shows them.
-/

namespace NoteTemplate

/-- The variable shows the name of the zone in a file name. -/
def Variable.showsZone (settings : DateTimeSettings) (format : Option Text) : Variable → Bool
  | .date | .datetime => ((format.map StoredText.text).getD settings.dateFormat).showsZone
  | .time => (StoredText.text (format.getD filenameTimeFormat)).showsZone
  | .timestamp | .year | .month | .day | .counter | .title => false

namespace VariableTag

/-- The tag shows the name of the zone in a file name. -/
def showsZone (settings : DateTimeSettings) (tag : VariableTag) : Bool :=
  (Variable.ofName? (Text.lower tag.name)).any fun known =>
    known.showsZone settings (tag.format.filter fun format => !format.isEmpty)

/-- The tag shows the time stamp. -/
def showsTimestamp (tag : VariableTag) : Bool :=
  Variable.ofName? (Text.lower tag.name) = some .timestamp

end VariableTag

/-- The Unix time in milliseconds has ten to thirteen digits. -/
def Instant.HasStampDigits [LocalZone] (instant : Instant) : Prop :=
  ∀ milliseconds, instant.unixMilliseconds = .ok milliseconds →
    10 ^ 9 ≤ milliseconds ∧ milliseconds < 10 ^ 13

/-- Where the clocks show UTC, a recent time stamp has as many digits as are expected. -/
theorem Instant.IsRecent.hasStampDigits [LocalZone] {instant : Instant} (h : instant.IsRecent)
    (hutc : LocalZone.IsUtc) : instant.HasStampDigits :=
  fun _ hshown => h.bounds_of_unixMilliseconds hutc hshown

namespace RenderContext

open NamePattern

variable [LocalZone] {context : RenderContext} {number : Nat} {value : Option Text}
  {format : Option Text}

/-- The values are those for a recent file name with this counter. -/
structure IsNumbered (context : RenderContext) (number : Nat) : Prop where
  place : context.place = .filename
  counter : context.counter = some (number : Int)
  recent : context.instant.IsRecent

/-- A time stamp of ten to thirteen digits is covered. -/
theorem covers_timestamp {milliseconds : Int} (hstamp : context.instant.HasStampDigits)
    (hshown : context.instant.unixMilliseconds = .ok milliseconds) :
    Covers [.chars .digit 10 (some 13) true] (signedDecimal milliseconds) := by
  obtain ⟨hleast, hmost⟩ := hstamp milliseconds hshown
  obtain ⟨milliseconds, rfl⟩ := Int.eq_ofNat_of_zero_le (Int.le_trans (by decide) hleast)
  rw [signedDecimal_natCast]
  refine (describes_decimal ?_ ?_).covers
  · have hnine : ¬ (decimal milliseconds).length ≤ 9 := by
      rw [decimal, Nat.length_toDigits_le_iff (by decide) (by decide)]
      exact Nat.not_lt.2 (Int.ofNat_le.1 hleast)
    omega
  · rintro _ ⟨⟩
    exact length_decimal_le (by decide) (Int.ofNat_lt.1 hmost)

section

variable (h : context.IsNumbered number)

include h

theorem covers_of_given {given : Text}
    (hzone : (StoredText.text given).showsZone = true → context.instant.HasPlainZone)
    (hvalue : some <$> context.instant.formatStored (.text given) = .ok value) (source : Text) :
    (formatPattern given).Covers (value.getD source) := by
  obtain ⟨text, htext, rfl⟩ := map_eq_ok_iff.1 hvalue
  exact Instant.covers_of_format h.recent.isCounted hzone htext

/-- Every variable shows a text that its pattern covers; one without a value stays as it is
written. -/
theorem covers_of_render {wanted : Variable}
    (hzone : wanted.showsZone context.settings format = true → context.instant.HasPlainZone)
    (hstamp : wanted = .timestamp → context.instant.HasStampDigits)
    (hvalue : context.render wanted format = .ok value)
    (source : Text) : ∃ pattern : NamePattern,
      wanted.pattern context.settings format = .ok pattern ∧
        pattern.Covers (value.getD source) := by
  -- The formats that are fixed show no zone.
  have hfixed {given : Text} (hgiven : (StoredText.text given).showsZone = false)
      (hvalue : some <$> context.instant.formatStored (.text given) = .ok value) :
      (formatPattern given).Covers (value.getD source) :=
    covers_of_given h (by simp [hgiven]) hvalue source
  cases wanted with
  | date =>
    cases format with
    | some given => exact ⟨_, rfl, covers_of_given h hzone hvalue source⟩
    | none =>
      obtain ⟨text, htext, rfl⟩ := map_eq_ok_iff.1 hvalue
      exact Instant.covers_of_formatStored h.recent.isCounted hzone htext
  | time =>
    cases format with
    | some given => exact ⟨_, rfl, covers_of_given h hzone hvalue source⟩
    | none =>
      simp only [render, timeFormat, h.place] at hvalue
      exact ⟨_, rfl, covers_of_given h hzone hvalue source⟩
  | datetime =>
    cases format with
    | some given => exact ⟨_, rfl, covers_of_given h hzone hvalue source⟩
    | none =>
      simp only [render, timeFormat, h.place, Option.map_none] at hvalue
      obtain ⟨date, hdate, hvalue⟩ := bind_eq_ok_iff.1 hvalue
      obtain ⟨time, htime, hvalue⟩ := bind_eq_ok_iff.1 hvalue
      obtain rfl := Except.ok.inj hvalue
      obtain ⟨pattern, hpattern, hcovers⟩ :
          ∃ pattern, context.settings.dateFormat.pattern = .ok pattern ∧ pattern.Covers date :=
        Instant.covers_of_formatStored h.recent.isCounted hzone hdate
      have hcoversTime : (formatPattern filenameTimeFormat).Covers time :=
        Instant.covers_of_format h.recent.isCounted (fun hshows => by cases hshows) htime
      have hseparator : Covers [.one (.only '_')] [context.separator] := by
        rw [separator, h.place]
        exact (describes_one (d := '_') (by decide) (by decide) (by decide)).covers
      refine ⟨pattern ++ .one (.only '_') :: formatPattern filenameTimeFormat, ?_, ?_⟩
      · rw [Variable.pattern, hpattern]
        rfl
      · exact hcovers.append (hseparator.append hcoversTime)
  | timestamp =>
    rw [render] at hvalue
    split at hvalue
    · next milliseconds hshown =>
      obtain rfl := Except.ok.inj hvalue
      exact ⟨_, rfl, covers_timestamp (hstamp rfl) hshown⟩
    · cases hvalue
  | year => exact ⟨_, rfl, hfixed (by decide) hvalue⟩
  | month => exact ⟨_, rfl, hfixed (by decide) hvalue⟩
  | day => exact ⟨_, rfl, hfixed (by decide) hvalue⟩
  | counter =>
    simp only [render, h.counter] at hvalue
    obtain ⟨text, htext, rfl⟩ := map_eq_ok_iff.1 hvalue
    obtain ⟨rfl, -⟩ := counterText_natCast htext
    exact ⟨_, rfl, (describes_atLeastOne_decimal number).covers⟩
  | title =>
    simp only [render, h.place] at hvalue
    obtain rfl := Except.ok.inj hvalue
    exact ⟨_, rfl, covers_gap source⟩

/-- What stands for a tag in a file name is covered by the pattern of its variable. -/
theorem covers_of_renderTag {tag : VariableTag}
    (hzone : tag.showsZone context.settings = true → context.instant.HasPlainZone)
    (hstamp : tag.showsTimestamp = true → context.instant.HasStampDigits)
    (hvalue : context.renderTag tag = .ok value)
    (source : Text) : ∃ pattern : NamePattern,
      variablePattern context.settings tag.name tag.format = .ok pattern ∧
        pattern.Covers (value.getD source) := by
  rw [VariableTag.showsZone] at hzone
  rw [VariableTag.showsTimestamp, decide_eq_true_eq] at hstamp
  rw [renderTag, renderNamed] at hvalue
  rw [variablePattern]
  cases hknown : Variable.ofName? (Text.lower tag.name) with
  | some wanted =>
    rw [hknown] at hvalue hzone hstamp
    exact covers_of_render h hzone (fun htimestamp => hstamp (congrArg some htimestamp)) hvalue
      source
  | none =>
    rw [hknown] at hvalue
    obtain rfl := Except.ok.inj hvalue
    exact ⟨_, rfl, covers_gap source⟩

end

end RenderContext

end NoteTemplate
