import NoteTemplate.Proofs.NamePattern.Language

/-!
# What the counter of a pattern captures

The counter takes as many digits as the rest of the pattern lets it have, and a gap in
front of it takes as little as it can.  So between two fixed texts exactly the digits there
are captured, and where a side is open the digits on that side are captured as well.
-/

namespace NoteTemplate

/-- The first result of an ordered search, where every earlier candidate fails. -/
theorem findSome?_of_pairwise {α β : Type} {R : α → α → Prop} {items : List α}
    {f : α → Option β} {item : α} {result : β} (hpairs : items.Pairwise R) (hmem : item ∈ items)
    (hitem : f item = some result)
    (hearlier : ∀ other ∈ items, R other item → f other = none) :
    items.findSome? f = some result := by
  induction hpairs with
  | nil => simp at hmem
  | @cons first items hfirst _ ih =>
    rcases List.mem_cons.1 hmem with rfl | hmem
    · rw [List.findSome?_cons, hitem]
    · have hnone := hearlier first (by simp) (hfirst item hmem)
      rw [List.findSome?_cons, hnone]
      apply ih hmem
      intro other hother
      exact hearlier other (by simp [hother])

namespace NamePattern

variable {pieces pattern : NamePattern} {front digits rest before after text : Text}
  {captured : Option Text}

/-- The counter keeps the digits that it takes when it can take no more. -/
theorem match?_counter (hdigits : CharSet.digit.Fills 1 none digits)
    (hrest : match? pieces rest = some captured)
    (hlonger : ∀ more other, rest = more ++ other → more ≠ [] →
      (∀ c ∈ more, isDigit c = true) → match? pieces other = none) :
    match? (.counter :: pieces) (digits ++ rest) = some (some digits) := by
  rw [match?]
  have hpairs : (PatternPiece.counter.rests (digits ++ rest)).Pairwise
      fun left right => left.length < right.length := by
    rw [PatternPiece.rests, List.pairwise_reverse]
    exact pairwise_restsAfter _ _ _ _
  have hmem : rest ∈ PatternPiece.counter.rests (digits ++ rest) :=
    PatternPiece.mem_rests_iff.2 ⟨digits, rfl, hdigits⟩
  apply findSome?_of_pairwise hpairs hmem
  · rw [hrest]
    simp [PatternPiece.isCounter]
  · intro other hother hshorter
    obtain ⟨taken, heq, htaken⟩ := PatternPiece.mem_rests_iff.1 hother
    have hlength := congrArg List.length heq
    simp only [List.length_append] at hlength
    rcases List.append_eq_append_iff.1 heq with ⟨more, rfl, rfl⟩ | ⟨more, rfl, rfl⟩
    · have hne : more ≠ [] := by
        rintro rfl
        simp at hshorter
      rw [hlonger more other rfl hne fun c hc => htaken.holds c (by simp [hc])]
      rfl
    · simp only [List.length_append] at hlength hshorter
      omega

/-- A gap takes a text when no shorter one will do. -/
theorem match?_gap (hfront : '\n' ∉ front) (hrest : match? pieces rest = some captured)
    (hshorter : ∀ left right, front = left ++ right → right ≠ [] →
      match? pieces (right ++ rest) = none) :
    match? (.gap :: pieces) (front ++ rest) = some captured := by
  rw [match?]
  have hpairs : (PatternPiece.gap.rests (front ++ rest)).Pairwise
      fun left right => right.length < left.length := pairwise_restsAfter _ _ _ _
  have hmem : rest ∈ PatternPiece.gap.rests (front ++ rest) := by
    refine PatternPiece.mem_rests_iff.2 ⟨front, rfl, Nat.zero_le _, by simp, ?_⟩
    intro c hc
    simp only [CharSet.holds, decide_eq_true_eq]
    rintro rfl
    exact hfront hc
  apply findSome?_of_pairwise hpairs hmem
  · rw [hrest]
    rfl
  · intro other hother hlonger
    obtain ⟨taken, heq, -⟩ := PatternPiece.mem_rests_iff.1 hother
    have hlength := congrArg List.length heq
    simp only [List.length_append] at hlength
    rcases List.append_eq_append_iff.1 heq with ⟨more, rfl, rfl⟩ | ⟨more, rfl, rfl⟩
    · simp only [List.length_append] at hlength hlonger
      omega
    · have hne : more ≠ [] := by
        rintro rfl
        simp at hlonger
      rw [hshorter taken more rfl hne]
      rfl

/-- Without a counter nothing is captured. -/
theorem eq_none_of_match? (hnone : pattern.counters = 0)
    (h : match? pattern text = some captured) : captured = none := by
  induction pattern generalizing text captured with
  | nil =>
    rw [match?_nil] at h
    split at h
    · exact (Option.some.inj h).symm
    · simp at h
  | cons piece pieces ih =>
    rw [counters, List.countP_cons] at hnone
    have hpiece : piece.isCounter = false := by
      cases hcounter : piece.isCounter with
      | false => rfl
      | true => simp [hcounter] at hnone
    rw [match?] at h
    obtain ⟨rest, -, hrest⟩ := List.exists_of_findSome?_eq_some h
    rw [hpiece] at hrest
    obtain ⟨later, hlater, rfl⟩ := Option.map_eq_some_iff.1 hrest
    exact ih (by rw [counters]; omega) hlater

theorem match?_eq_some_none (hnone : pattern.counters = 0) (h : Takes pattern text) :
    match? pattern text = some none := by
  have hsome := match?_isSome_iff.2 ⟨text, h, Or.inl rfl⟩
  obtain ⟨captured, hcaptured⟩ := Option.isSome_iff_exists.1 hsome
  rw [hcaptured, eq_none_of_match? hnone hcaptured]

/-! ### Fixed texts -/

theorem takes_ofText_iff {other : Text} : Takes (ofText text) other ↔ other = text := by
  constructor
  · intro h
    induction text generalizing other with
    | nil => exact takes_nil_iff.1 h
    | cons c text ih =>
      obtain ⟨taken, rest, rfl, htaken, hrest⟩ := takes_cons_iff.1 h
      have hlength : taken.length = 1 := by
        have hmost := htaken.le_most 1 rfl
        have hleast := htaken.least_le
        omega
      obtain ⟨d, rfl⟩ := List.length_eq_one_iff.1 hlength
      have hd : c = d := by simpa [CharSet.holds] using htaken.holds d (by simp)
      rw [hd, ih hrest, List.singleton_append]
  · rintro rfl
    exact takes_ofText _

theorem counters_ofText (text : Text) : (ofText text).counters = 0 := by
  rw [counters, List.countP_eq_zero]
  intro piece hpiece
  obtain ⟨c, -, rfl⟩ := List.mem_map.1 hpiece
  simp [PatternPiece.one, PatternPiece.isCounter]

theorem match?_ofText_of_shorter {other : Text} (h : other.length < text.length) :
    match? (ofText text) other = none := by
  rw [← Option.not_isSome_iff_eq_none, match?_isSome_iff]
  rintro ⟨taken, htakes, hend⟩
  rw [takes_ofText_iff.1 htakes] at hend
  rcases hend with rfl | rfl
  · omega
  · rw [List.length_append] at h
    omega

theorem rests_only (c : Char) (text : Text) :
    (PatternPiece.one (.only c)).rests (c :: text) = [text] := by
  have hzero (text : Text) : restsAfter (.only c) 0 (some 0) text = [text] := by
    cases text <;> simp [restsAfter]
  simp [PatternPiece.rests, PatternPiece.one, restsAfter, CharSet.holds, hzero]

/-- A fixed text at the start is passed over. -/
theorem match?_ofText_append (before : Text) (pattern : NamePattern) (text : Text) :
    match? (ofText before ++ pattern) (before ++ text) = match? pattern text := by
  induction before with
  | nil => rfl
  | cons c before ih =>
    have hcons : ofText (c :: before) ++ pattern =
        .one (.only c) :: (ofText before ++ pattern) := rfl
    rw [hcons, List.cons_append, match?, rests_only, List.findSome?_singleton, ih]
    simp [PatternPiece.one, PatternPiece.isCounter]

/-! ### The three shapes with a fixed side -/

/-- Between two fixed texts the digits there are captured. -/
theorem match?_between (before after : Text) (hdigits : CharSet.digit.Fills 1 none digits) :
    match? (ofText before ++ .counter :: ofText after) (before ++ (digits ++ after)) =
      some (some digits) := by
  rw [match?_ofText_append]
  apply match?_counter hdigits
  · exact match?_eq_some_none (counters_ofText after) (takes_ofText after)
  · rintro more other rfl hne -
    apply match?_ofText_of_shorter
    have hpos : 0 < more.length := List.length_pos_iff.2 hne
    rw [List.length_append]
    omega

/-- When the side behind is open, the digits that follow are captured as well. -/
theorem match?_behind (before : Text) {more : Text} (hdigits : CharSet.digit.Fills 1 none digits)
    (hmore : ∀ c ∈ more, isDigit c = true) (hend : ∀ c ∈ after.head?, isDigit c = false)
    (hline : '\n' ∉ after) :
    match? (ofText before ++ [.counter, .anything]) (before ++ (digits ++ (more ++ after))) =
      some (some (digits ++ more)) := by
  have hfills : CharSet.digit.Fills 1 none (digits ++ more) := by
    refine ⟨?_, by simp, ?_⟩
    · have hleast := hdigits.least_le
      rw [List.length_append]
      omega
    · intro c hc
      rcases List.mem_append.1 hc with hc | hc
      · exact hdigits.holds c hc
      · exact hmore c hc
  have hanything : Takes [.anything] after := by
    apply takes_singleton
    refine ⟨Nat.zero_le _, by simp, ?_⟩
    intro c hc
    simp only [CharSet.holds, decide_eq_true_eq]
    rintro rfl
    exact hline hc
  rw [match?_ofText_append, ← List.append_assoc]
  apply match?_counter hfills
  · exact match?_eq_some_none rfl hanything
  · intro longer other heq hne hlonger
    obtain ⟨c, longer, rfl⟩ := List.exists_cons_of_ne_nil hne
    have hc := hend c (by simp [heq])
    rw [hlonger c (by simp)] at hc
    simp at hc

/-- When the side in front is open, the digits that come before are captured as well. -/
theorem match?_before {more : Text} (hdigits : CharSet.digit.Fills 1 none digits)
    (hmore : ∀ c ∈ more, isDigit c = true) (hstart : ∀ c ∈ front.getLast?, isDigit c = false)
    (hline : '\n' ∉ front ++ (more ++ digits ++ after)) :
    match? (.gap :: .counter :: ofText after) (front ++ (more ++ digits ++ after)) =
      some (some (more ++ digits)) := by
  have hfills : CharSet.digit.Fills 1 none (more ++ digits) := by
    refine ⟨?_, by simp, ?_⟩
    · have hleast := hdigits.least_le
      rw [List.length_append]
      omega
    · intro c hc
      rcases List.mem_append.1 hc with hc | hc
      · exact hmore c hc
      · exact hdigits.holds c hc
  apply match?_gap
  · exact fun hmem => hline (List.mem_append_left _ hmem)
  · apply match?_counter hfills
    · exact match?_eq_some_none (counters_ofText after) (takes_ofText after)
    · rintro longer other rfl hne -
      apply match?_ofText_of_shorter
      have hpos : 0 < longer.length := List.length_pos_iff.2 hne
      rw [List.length_append]
      omega
  · -- A shorter gap would leave the last character of `front` to the counter.
    rintro left right rfl hne
    rw [← Option.not_isSome_iff_eq_none, match?_isSome_iff]
    rintro ⟨taken, htakes, hend⟩
    have heq : right ++ (more ++ digits ++ after) = taken := by
      rcases hend with hend | hend
      · exact hend
      · exfalso
        apply hline
        have hmem : '\n' ∈ right ++ (more ++ digits ++ after) := by
          rw [hend]
          simp
        rw [List.append_assoc]
        exact List.mem_append_right _ hmem
    obtain ⟨counted, rest, rfl, hcounted, hrest⟩ := takes_cons_iff.1 htakes
    rw [takes_ofText_iff.1 hrest, ← List.append_assoc] at heq
    have hcounted' : right ++ (more ++ digits) = counted := List.append_cancel_right heq
    have hlast := hstart (right.getLast hne) (by
      simp [List.getLast?_append, List.getLast?_eq_some_getLast hne])
    have hdigit := hcounted.holds (right.getLast hne) (by
      rw [← hcounted']
      exact List.mem_append_left _ (List.getLast_mem hne))
    rw [CharSet.holds, hlast] at hdigit
    simp at hdigit

end NamePattern

end NoteTemplate
