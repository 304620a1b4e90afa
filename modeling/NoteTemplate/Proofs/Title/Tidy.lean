import NoteTemplate.Proofs.Title.Cleaning

/-!
# Tidy names

A name that tidying leaves alone has no run of blanks, and neither spaces nor dots at its
ends.  Tidied names are of this kind, so a name is not tidied twice; and they stay so when a
numeral in them becomes another one.
-/

namespace NoteTemplate

variable {text left right title front behind : Text} {inRun : Bool}

/-- There is nothing to tidy in the text. -/
structure IsTidy (text : Text) : Prop where
  cleaned : cleanCharacters text = text
  collapsed : collapseBlanks text = text
  head : ∀ c ∈ text.head?, isFilenameEdge c = false
  last : ∀ c ∈ text.getLast?, isFilenameEdge c = false

/-! ### Runs of blanks -/

theorem length_collapseBlanksFrom_le (inRun : Bool) (text : Text) :
    (collapseBlanksFrom inRun text).length ≤ text.length := by
  induction text generalizing inRun with
  | nil => exact Nat.le_refl 0
  | cons c text ih =>
    have hkept := ih false
    have hrun := ih true
    rw [collapseBlanksFrom]
    split
    · split <;> simp only [List.length_cons] <;> omega
    · simp only [List.length_cons]
      omega

/-- Whether a space was just written is all that the rest of a text is told. -/
theorem exists_collapseBlanksFrom_append (inRun : Bool) (left : Text) :
    ∃ later, ∀ right, collapseBlanksFrom inRun (left ++ right) =
      collapseBlanksFrom inRun left ++ collapseBlanksFrom later right := by
  induction left generalizing inRun with
  | nil => exact ⟨inRun, fun _ => rfl⟩
  | cons c left ih =>
    obtain ⟨inside, hinside⟩ := ih true
    obtain ⟨outside, houtside⟩ := ih false
    cases hc : isBlank c with
    | true =>
      refine ⟨inside, fun right => ?_⟩
      simp only [List.cons_append, collapseBlanksFrom, hc, if_true, hinside]
      split <;> rfl
    | false =>
      refine ⟨outside, fun right => ?_⟩
      simp [collapseBlanksFrom, hc, houtside]

/-- Behind a word nothing is known of the blanks before it. -/
theorem collapseBlanksFrom_word_append {word : Text} (hword : ∀ c ∈ word, isBlank c = false)
    (hne : word ≠ []) (inRun : Bool) (right : Text) :
    collapseBlanksFrom inRun (word ++ right) = word ++ collapseBlanks right := by
  induction word generalizing inRun with
  | nil => exact absurd rfl hne
  | cons c word ih =>
    have hc := hword c List.mem_cons_self
    rw [List.cons_append, collapseBlanksFrom, hc, if_neg (by decide), List.cons_append]
    cases word with
    | nil => rfl
    | cons d word => rw [ih (fun e he => hword e (List.mem_cons_of_mem _ he)) (by simp)]

/-- A text without runs has none in its parts. -/
theorem collapseBlanksFrom_eq_self_of_append {later : Bool}
    (hparts : collapseBlanksFrom inRun (left ++ right) =
      collapseBlanksFrom inRun left ++ collapseBlanksFrom later right)
    (h : collapseBlanksFrom inRun (left ++ right) = left ++ right) :
    collapseBlanksFrom inRun left = left ∧ collapseBlanksFrom later right = right := by
  have hleft := length_collapseBlanksFrom_le inRun left
  have hright := length_collapseBlanksFrom_le later right
  have hlength := congrArg List.length (hparts.symm.trans h)
  rw [List.length_append, List.length_append] at hlength
  exact List.append_inj (hparts.symm.trans h) (by omega)

theorem collapseBlanks_eq_self_of_run (h : collapseBlanksFrom true text = text) :
    collapseBlanks text = text := by
  cases text with
  | nil => rfl
  | cons c text =>
    rw [collapseBlanksFrom] at h
    split at h
    · have hshorter := length_collapseBlanksFrom_le true text
      simp only [if_true] at h
      rw [h, List.length_cons] at hshorter
      omega
    · next hc => rw [collapseBlanks, collapseBlanksFrom, if_neg hc, h]

theorem collapseBlanks_eq_self_of_infix (hpart : left <:+: text)
    (h : collapseBlanks text = text) : collapseBlanks left = left := by
  obtain ⟨before, after, rfl⟩ := hpart
  obtain ⟨later, hlater⟩ := exists_collapseBlanksFrom_append false (before ++ left)
  have hfront := (collapseBlanksFrom_eq_self_of_append (hlater after) h).1
  obtain ⟨inRun, hinRun⟩ := exists_collapseBlanksFrom_append false before
  have hleft := (collapseBlanksFrom_eq_self_of_append (hinRun left) hfront).2
  cases inRun with
  | true => exact collapseBlanks_eq_self_of_run hleft
  | false => exact hleft

theorem collapseBlanksFrom_collapseBlanksFrom (inRun : Bool) (text : Text) :
    collapseBlanksFrom inRun (collapseBlanksFrom inRun text) = collapseBlanksFrom inRun text := by
  have hspace : isBlank ' ' = true := by decide
  induction text generalizing inRun with
  | nil => rfl
  | cons c text ih =>
    cases hc : isBlank c with
    | false => simp [collapseBlanksFrom, hc, ih]
    | true =>
      cases inRun with
      | true => simp [collapseBlanksFrom, hc, ih]
      | false => simp [collapseBlanksFrom, hc, hspace, ih]

/-! ### Tidied names -/

theorem cleanChar?_of_mem_cleanCharacters {c : Char} (h : c ∈ cleanCharacters text) :
    cleanChar? c = some c := by
  obtain ⟨d, -, hd⟩ := List.mem_filterMap.1 h
  rw [cleanChar?] at hd
  split at hd
  · obtain rfl := Option.some.inj hd
    decide
  · next hcolon =>
    split at hd
    · obtain rfl := Option.some.inj hd
      decide
    · next hbar =>
      split at hd
      · cases hd
      · next hkept =>
        obtain rfl := Option.some.inj hd
        rw [cleanChar?, if_neg hcolon, if_neg hbar, if_neg hkept]

theorem IsTidy.cleanFilename_eq (h : IsTidy text) : cleanFilename text = text := by
  rw [cleanFilename, h.cleaned, h.collapsed]
  exact Text.trimWhile_eq_self_iff.2 ⟨h.head, h.last⟩

/-- Tidying leaves nothing to tidy. -/
theorem isTidy_cleanFilename (title : Text) : IsTidy (cleanFilename title) := by
  have hpart := Text.trimWhile_infix isFilenameEdge (collapseBlanks (cleanCharacters title))
  have hedges := Text.trimWhile_eq_self_iff.1 (Text.trimWhile_trimWhile isFilenameEdge
    (collapseBlanks (cleanCharacters title)))
  refine ⟨?_, ?_, hedges.1, hedges.2⟩
  · apply cleanCharacters_eq_self
    intro c hc
    cases mem_of_mem_collapseBlanksFrom (hpart.subset hc) with
    | inl hspace =>
      rw [hspace]
      decide
    | inr hclean => exact cleanChar?_of_mem_cleanCharacters hclean
  · exact collapseBlanks_eq_self_of_infix hpart (collapseBlanksFrom_collapseBlanksFrom false _)

theorem cleanFilename_cleanFilename (title : Text) :
    cleanFilename (cleanFilename title) = cleanFilename title :=
  (isTidy_cleanFilename title).cleanFilename_eq

/-! ### Numerals in names -/

theorem isBlank_of_mem_decimal {number : Nat} {c : Char} (h : c ∈ decimal number) :
    isBlank c = false ∧ isFilenameEdge c = false := by
  have hdigit : c.isAlphanum = true := by
    rw [Char.isAlphanum, isDigit_of_mem_decimal h, Bool.or_true]
  have hall : ∀ n < 128, (Char.ofNat n).isAlphanum = true →
      isBlank (Char.ofNat n) = false ∧ isFilenameEdge (Char.ofNat n) = false := by
    decide +kernel
  exact forall_ascii
    (p := fun c => c.isAlphanum = true → isBlank c = false ∧ isFilenameEdge c = false) hall
    (toNat_lt_of_isAlphanum hdigit) hdigit

/-- Another numeral in a tidy name leaves it tidy. -/
theorem IsTidy.replace_decimal {number other : Nat}
    (h : IsTidy (left ++ (decimal number ++ right))) :
    IsTidy (left ++ (decimal other ++ right)) := by
  have hword (n : Nat) (inRun : Bool) : collapseBlanksFrom inRun (decimal n ++ right) =
      decimal n ++ collapseBlanks right :=
    collapseBlanksFrom_word_append (fun c hc => (isBlank_of_mem_decimal hc).1)
      (decimal_ne_nil n) inRun right
  have hcleaned {part : Text} (hpart : ∀ c ∈ part, c ∈ left ++ (decimal number ++ right)) :
      cleanCharacters part = part := by
    apply cleanCharacters_eq_self
    intro c hc
    have hmem := hpart c hc
    rw [← h.cleaned] at hmem
    exact cleanChar?_of_mem_cleanCharacters hmem
  obtain ⟨later, hlater⟩ := exists_collapseBlanksFrom_append false left
  obtain ⟨hleft, hrest⟩ := collapseBlanksFrom_eq_self_of_append
    (hlater (decimal number ++ right)) h.collapsed
  rw [hword] at hrest
  have hright := List.append_cancel_left hrest
  refine ⟨?_, ?_, ?_, ?_⟩
  · rw [cleanCharacters_append, cleanCharacters_append, cleanCharacters_decimal,
      hcleaned fun c hc => by simp [hc], hcleaned fun c hc => by simp [hc]]
  · rw [collapseBlanks, hlater, hword, hleft, hright]
  · intro c hc
    cases left with
    | nil =>
      rw [List.nil_append, List.head?_append_of_ne_nil _ (decimal_ne_nil other)] at hc
      exact (isBlank_of_mem_decimal (List.mem_of_mem_head? hc)).2
    | cons d left => exact h.head c hc
  · intro c hc
    rw [← List.append_assoc] at hc
    rcases List.eq_nil_or_concat' right with rfl | ⟨right, d, rfl⟩
    · rw [List.append_nil, List.getLast?_append_of_ne_nil _ (decimal_ne_nil other)] at hc
      exact (isBlank_of_mem_decimal (List.mem_of_mem_getLast? hc)).2
    · apply h.last c
      rw [← List.append_assoc, List.getLast?_append_of_ne_nil _ (by simp)]
      rwa [List.getLast?_append_of_ne_nil _ (by simp)] at hc

/-- When the two sides of a number survive tidying, they do so beside every number. -/
theorem cleanFilename_decimal (number : Nat)
    (h : cleanFilename (front ++ '0' :: behind) =
      cleanCharacters front ++ '0' :: cleanCharacters behind) :
    cleanFilename (front ++ (decimal number ++ behind)) =
      cleanCharacters front ++ (decimal number ++ cleanCharacters behind) := by
  have htidy : IsTidy (cleanCharacters front ++ (decimal 0 ++ cleanCharacters behind)) := by
    have hzero := isTidy_cleanFilename (front ++ '0' :: behind)
    rwa [h] at hzero
  have hother : IsTidy (cleanCharacters front ++ (decimal number ++ cleanCharacters behind)) :=
    htidy.replace_decimal
  rw [cleanFilename, cleanCharacters_append, cleanCharacters_append, cleanCharacters_decimal,
    hother.collapsed]
  exact Text.trimWhile_eq_self_iff.2 ⟨hother.head, hother.last⟩

end NoteTemplate
