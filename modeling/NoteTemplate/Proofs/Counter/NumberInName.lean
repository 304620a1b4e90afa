import NoteTemplate.Proofs.Counter.ReadBack

/-!
# The number in a name

When a side of the counter has no tags, the pattern for file names fixes that side and
leaves the other one open.  The number of a name is then a run of digits of any script that
stands at the fixed side, and on an open side the run goes on as far as there are digits.
A name that is not made like this has no number, and neither has one with too many digits
(`exists_counterIn?_iff`).
-/

namespace NoteTemplate

open NamePattern

variable {pattern before after name digits : Text} {shape : NamePattern}
  {strategy : CounterStrategy}

/-- The side that is fixed, by whether there are tags before and behind the counter. -/
def CounterStrategy.ofTags : (before after : Bool) → CounterStrategy
  | false, false => .bothSides
  | false, true => .before
  | true, false => .after
  | true, true => .everyPart

/-- The digits are the number of a name, with the given texts on the fixed sides.  No digit
stands next to them on an open side. -/
def CounterStrategy.Numbers (strategy : CounterStrategy) (before after digits name : Text) :
    Prop :=
  (digits ≠ [] ∧ ∀ c ∈ digits, isDigit c = true) ∧
    match strategy with
    | .bothSides => name = before ++ (digits ++ after)
    | .before => ∃ rest, name = before ++ (digits ++ rest) ∧ ∀ c ∈ rest.head?, isDigit c = false
    | .after => ∃ front, name = front ++ (digits ++ after) ∧
        ∀ c ∈ front.getLast?, isDigit c = false
    | .everyPart => False

/-- A pattern for names captures the number of a name, and takes no other names. -/
structure NamePattern.CapturesNumber (shape : NamePattern) (strategy : CounterStrategy)
    (before after : Text) : Prop where
  captures : ∀ digits name, '\n' ∉ name → strategy.Numbers before after digits name →
    shape.match? name = some (some digits)
  exists_digits : ∀ name, Takes shape name → ∃ digits, strategy.Numbers before after digits name

/-! ### Runs of digits -/

theorem fills_digit_iff :
    CharSet.digit.Fills 1 none digits ↔ digits ≠ [] ∧ ∀ c ∈ digits, isDigit c = true := by
  constructor
  · intro h
    exact ⟨List.length_pos_iff.1 h.least_le, h.holds⟩
  · rintro ⟨hne, hdigits⟩
    exact ⟨List.length_pos_iff.2 hne, by simp, hdigits⟩

theorem isRun_append {left right : Text} (hleft : ∀ c ∈ left, isDigit c = true)
    (hright : ∀ c ∈ right, isDigit c = true) (hne : left ≠ [] ∨ right ≠ []) :
    left ++ right ≠ [] ∧ ∀ c ∈ left ++ right, isDigit c = true := by
  refine ⟨?_, fun c hc => (List.mem_append.1 hc).elim (hleft c) (hright c)⟩
  rw [Ne, List.append_eq_nil_iff, not_and_or]
  exact hne

/-! ### The three patterns with a fixed side -/

/-- A row that starts with a fixed text takes that text and what the other pieces take. -/
theorem takes_ofText_append_iff :
    Takes (ofText before ++ shape) name ↔ ∃ rest, name = before ++ rest ∧ Takes shape rest := by
  induction before generalizing name with
  | nil => simp [ofText]
  | cons c before ih =>
    have hcons : ofText (c :: before) ++ shape = .one (.only c) :: (ofText before ++ shape) := rfl
    rw [hcons, takes_cons_iff]
    constructor
    · rintro ⟨taken, rest, rfl, htaken, hrest⟩
      obtain ⟨rest, rfl, hshape⟩ := ih.1 hrest
      have hone : taken = [c] := takes_ofText_iff.1 (takes_singleton htaken)
      exact ⟨rest, by rw [hone]; rfl, hshape⟩
    · rintro ⟨rest, rfl, hshape⟩
      refine ⟨[c], before ++ rest, rfl, ?_, ih.2 ⟨rest, rfl, hshape⟩⟩
      exact ⟨by simp, by simp, by simp [CharSet.holds]⟩

theorem takes_counter_cons_iff :
    Takes (.counter :: shape) name ↔
      ∃ digits rest, name = digits ++ rest ∧
        (digits ≠ [] ∧ ∀ c ∈ digits, isDigit c = true) ∧ Takes shape rest := by
  rw [takes_cons_iff]
  simp only [PatternPiece.Takes, fills_digit_iff]

theorem capturesNumber_bothSides (before after : Text) :
    CapturesNumber (ofText before ++ .counter :: ofText after) .bothSides before after where
  captures digits name _ h := by
    obtain ⟨hrun, rfl⟩ := h
    exact match?_between before after (fills_digit_iff.2 hrun)
  exists_digits name h := by
    obtain ⟨rest, rfl, hrest⟩ := takes_ofText_append_iff.1 h
    obtain ⟨digits, behind, rfl, hrun, hbehind⟩ := takes_counter_cons_iff.1 hrest
    rw [takes_ofText_iff.1 hbehind]
    exact ⟨digits, hrun, rfl⟩

theorem capturesNumber_before (before after : Text) :
    CapturesNumber (ofText before ++ [.counter, .anything]) .before before after where
  captures digits name hline h := by
    obtain ⟨hrun, rest, rfl, hrest⟩ := h
    have hmatch := match?_behind before (fills_digit_iff.2 hrun) (List.forall_mem_nil _) hrest
      fun hmem => hline (by simp [hmem])
    rwa [List.append_nil, List.nil_append] at hmatch
  exists_digits name h := by
    obtain ⟨rest, rfl, hrest⟩ := takes_ofText_append_iff.1 h
    obtain ⟨digits, behind, rfl, hrun, -⟩ := takes_counter_cons_iff.1 hrest
    -- the counter is greedy: the digits that the open side starts with belong to the number
    obtain ⟨more, rest, rfl, hmore, hrest⟩ := exists_digits_front behind
    exact ⟨digits ++ more, isRun_append hrun.2 hmore (Or.inl hrun.1), rest, by simp, hrest⟩

theorem capturesNumber_after (before after : Text) :
    CapturesNumber (.gap :: .counter :: ofText after) .after before after where
  captures digits name hline h := by
    obtain ⟨hrun, front, rfl, hfront⟩ := h
    have hmatch := match?_before (fills_digit_iff.2 hrun) (List.forall_mem_nil _) hfront hline
    rwa [List.nil_append] at hmatch
  exists_digits name h := by
    obtain ⟨front, rest, rfl, -, hrest⟩ := takes_cons_iff.1 h
    obtain ⟨digits, behind, rfl, hrun, hbehind⟩ := takes_counter_cons_iff.1 hrest
    -- the gap is lazy: the digits that the open side ends with belong to the number
    obtain ⟨front, more, rfl, hmore, hfront⟩ := exists_digits_behind front
    rw [takes_ofText_iff.1 hbehind]
    exact ⟨more ++ digits, isRun_append hmore hrun.2 (Or.inr hrun.1), front, by simp, hfront⟩

/-! ### From the digits to the number -/

namespace NamePattern.CapturesNumber

variable {value : Nat} (h : shape.CapturesNumber strategy before after) (hline : '\n' ∉ name)

include h hline

theorem counterIn?_eq (hdigits : strategy.Numbers before after digits name) :
    shape.counterIn? name =
      if digits.length ≤ maxNumeralDigits then some (digitsValue digits) else none := by
  rw [counterIn?, h.captures digits name hline hdigits]

/-- What is captured in a name is its number. -/
theorem exists_of_match? {captured : Option Text} (hmatch : shape.match? name = some captured) :
    ∃ digits, strategy.Numbers before after digits name := by
  obtain ⟨taken, htakes, hend⟩ := match?_isSome_iff.1 (by rw [hmatch]; rfl)
  obtain rfl : name = taken := by
    rcases hend with rfl | rfl
    · rfl
    · simp at hline
  exact h.exists_digits name htakes

theorem counterIn?_eq_some_iff :
    shape.counterIn? name = some value ↔
      ∃ digits, strategy.Numbers before after digits name ∧
        digits.length ≤ maxNumeralDigits ∧ digitsValue digits = value := by
  constructor
  · intro hvalue
    cases hmatch : shape.match? name with
    | none => simp [counterIn?, hmatch] at hvalue
    | some captured =>
      obtain ⟨digits, hdigits⟩ := h.exists_of_match? hline hmatch
      rw [h.counterIn?_eq hline hdigits] at hvalue
      split at hvalue
      · next hlength => exact ⟨digits, hdigits, hlength, Option.some.inj hvalue⟩
      · simp at hvalue
  · rintro ⟨digits, hdigits, hlength, rfl⟩
    rw [h.counterIn?_eq hline hdigits, if_pos hlength]

end NamePattern.CapturesNumber

/-- The pattern of a title with a fixed side captures numbers between the sides as they
appear in a file name. -/
theorem exists_capturesNumber (settings : DateTimeSettings)
    (hcut : cutAtCounter? pattern = some (before, after))
    (hsides : hasTags before = false ∨ hasTags after = false) :
    ∃ found, counterPattern? settings pattern = .ok (some found) ∧
      found.strategy = .ofTags (hasTags before) (hasTags after) ∧
      found.pattern.CapturesNumber found.strategy (cleanCharacters before)
        (cleanCharacters after) := by
  cases hbefore : hasTags before with
  | false =>
    cases hafter : hasTags after with
    | false =>
      exact ⟨_, counterPattern?_bothSides settings hcut hbefore hafter, rfl,
        capturesNumber_bothSides _ _⟩
    | true =>
      exact ⟨_, counterPattern?_before settings hcut hbefore hafter, rfl,
        capturesNumber_before _ _⟩
  | true =>
    have hafter : hasTags after = false := hsides.resolve_left (by simp [hbefore])
    rw [hafter]
    exact ⟨_, counterPattern?_after settings hcut hbefore hafter, rfl, capturesNumber_after _ _⟩

/-- A title with a fixed side has a pattern for file names, and the number that it reads in a
name is the value of the digits there, when they are not too many.  A name without such
digits has no number. -/
theorem exists_counterIn?_iff (settings : DateTimeSettings)
    (hcut : cutAtCounter? pattern = some (before, after))
    (hsides : hasTags before = false ∨ hasTags after = false) :
    ∃ found, counterPattern? settings pattern = .ok (some found) ∧
      found.strategy = .ofTags (hasTags before) (hasTags after) ∧
      ∀ name, '\n' ∉ name →
        (∀ value, found.pattern.counterIn? name = some value ↔
          ∃ digits, found.strategy.Numbers (cleanCharacters before) (cleanCharacters after)
              digits name ∧
            digits.length ≤ maxNumeralDigits ∧ digitsValue digits = value) ∧
        ∀ digits, found.strategy.Numbers (cleanCharacters before) (cleanCharacters after)
            digits name →
          maxNumeralDigits < digits.length → found.pattern.counterIn? name = none := by
  obtain ⟨found, hfound, hstrategy, hcaptures⟩ := exists_capturesNumber settings hcut hsides
  refine ⟨found, hfound, hstrategy, fun name hline => ⟨fun value => ?_, ?_⟩⟩
  · exact hcaptures.counterIn?_eq_some_iff hline
  · intro digits hdigits hlength
    rw [hcaptures.counterIn?_eq hline hdigits, if_neg (Nat.not_le_of_lt hlength)]

/-- Behind the text "No. (2" a number in Arabic-Indic digits is read, up to the date. -/
theorem exists_counterIn?_arabic :
    cutAtCounter? "No. (2\x7b\x7bCounter\x7d\x7d_\x7b\x7bdate\x7d\x7d".toList =
        some ("No. (2".toList, "_\x7b\x7bdate\x7d\x7d".toList) ∧
      hasTags "No. (2".toList = false ∧ '\n' ∉ "No. (2٣٤_x".toList ∧
      ∃ found, counterPattern? .default
          "No. (2\x7b\x7bCounter\x7d\x7d_\x7b\x7bdate\x7d\x7d".toList = .ok (some found) ∧
        found.strategy = .before ∧
        found.pattern.counterIn? "No. (2٣٤_x".toList = some 34 := by
  have hcut : cutAtCounter? "No. (2\x7b\x7bCounter\x7d\x7d_\x7b\x7bdate\x7d\x7d".toList =
      some ("No. (2".toList, "_\x7b\x7bdate\x7d\x7d".toList) := by
    decide +kernel
  have hbefore : hasTags "No. (2".toList = false := by decide +kernel
  have hafter : hasTags "_\x7b\x7bdate\x7d\x7d".toList = true := by decide +kernel
  have hline : '\n' ∉ "No. (2٣٤_x".toList := by decide
  have hdigits : (['٣', '٤'].all isDigit) = true ∧ isDigit '_' = false := by decide +kernel
  obtain ⟨found, hfound, hstrategy, hreads⟩ :=
    exists_counterIn?_iff .default hcut (Or.inl hbefore)
  rw [hbefore, hafter] at hstrategy
  refine ⟨hcut, hbefore, hline, found, hfound, hstrategy, ?_⟩
  rw [(hreads _ hline).1 34, hstrategy]
  refine ⟨['٣', '٤'], ⟨⟨by simp, List.all_eq_true.1 hdigits.1⟩, ['_', 'x'], ?_, ?_⟩, ?_, ?_⟩
  · decide +kernel
  · simpa using hdigits.2
  · decide
  · decide +kernel

end NoteTemplate
