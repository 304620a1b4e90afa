import NoteTemplate.NamePattern.Basic
import NoteTemplate.Proofs.Number.Decimal

/-!
# Reading the notation of patterns

The notation of a pattern is text, and whoever uses it has to read it again.  The reader
here goes through the text character by character and is strict: a character with a meaning
stands as itself only behind a backslash, a number of repetitions stands behind what is
repeated, ranges and bounds are in order, and every group is closed.  It counts the groups
that capture.

Pieces are written one after the other, and each leaves the reader where the next one can
be read.  So the notation of a pattern is valid and has a group for each counter
(`captureGroups?_source`).
-/

namespace NoteTemplate

variable {text left right : Text} {c : Char}

/-- Where a reader of the notation stands. -/
inductive NotationPlace where
  /-- There is nothing to repeat. -/
  | start
  /-- Behind something that can be repeated. -/
  | item
  /-- Behind a number of repetitions; a question mark asks for as few as possible. -/
  | repetition
  /-- Behind a backslash. -/
  | escape
  /-- Behind an opening parenthesis. -/
  | opening
  /-- Behind an opening parenthesis and a question mark. -/
  | mark
  /-- Behind an opening bracket. -/
  | bracket
  /-- In brackets, behind a member of the set. -/
  | member (c : Char)
  /-- In brackets, behind a member and a hyphen. -/
  | hyphen (first : Char)
  /-- In brackets, behind a range. -/
  | range
  /-- In braces: the least number of repetitions once it is read, and the digits of the
  number that is being read. -/
  | count (least : Option Text) (digits : Text)
deriving DecidableEq, Repr

/-- At such a place something new can start, and the notation can end. -/
def NotationPlace.isBetween : NotationPlace → Bool
  | .start | .item | .repetition => true
  | _ => false

/-- A reader of the notation. -/
structure NotationReader where
  place : NotationPlace
  /-- How many parentheses are open. -/
  depth : Nat
  /-- How many groups have captured. -/
  groups : Nat
deriving DecidableEq, Repr

/-- A number of repetitions has to be smaller than this. -/
def repetitionLimit : Nat := 4294967295

/-- Characters with a meaning inside brackets. -/
def setSpecials : Text := "[]\\^-".toList

/-- Does the character stand for itself inside brackets? -/
def isSetMember (c : Char) : Bool := !setSpecials.contains c

/-- Can the numbers stand in braces?  The greatest number may be left out behind a least
one. -/
def isCount : (least : Option Text) → (digits : Text) → Bool
  | none, digits => !digits.isEmpty && digitsValue digits < repetitionLimit
  | some least, digits =>
    digitsValue least < repetitionLimit && (digits.isEmpty ||
      (digitsValue least ≤ digitsValue digits && digitsValue digits < repetitionLimit))

namespace NotationReader

/-- The reader at another place. -/
def goTo (reader : NotationReader) (place : NotationPlace) : NotationReader :=
  { reader with place := place }

/-- Read a character where nothing can be repeated. -/
def readItem (reader : NotationReader) (c : Char) : Option NotationReader :=
  if patternSpecials.contains c then
    match c with
    | '.' => some (reader.goTo .item)
    | '\\' => some (reader.goTo .escape)
    | '[' => some (reader.goTo .bracket)
    | '^' | '$' | '|' => some (reader.goTo .start)
    | '(' => some ⟨.opening, reader.depth + 1, reader.groups⟩
    | ')' => if reader.depth = 0 then none else some ⟨.item, reader.depth - 1, reader.groups⟩
    | _ => none
  else some (reader.goTo .item)

/-- Read a character. -/
def step (reader : NotationReader) (c : Char) : Option NotationReader :=
  match reader.place with
  | .start => reader.readItem c
  | .item =>
    if c = '*' ∨ c = '+' ∨ c = '?' then some (reader.goTo .repetition)
    else if c = '\x7b' then some (reader.goTo (.count none []))
    else reader.readItem c
  | .repetition => if c = '?' then some (reader.goTo .start) else reader.readItem c
  | .escape => if patternSpecials.contains c ∨ c = 'd' then some (reader.goTo .item) else none
  | .opening =>
    if c = '?' then some (reader.goTo .mark)
    else readItem ⟨.start, reader.depth, reader.groups + 1⟩ c
  | .mark => if c = ':' then some (reader.goTo .start) else none
  | .bracket => if isSetMember c then some (reader.goTo (.member c)) else none
  | .member first =>
    if c = ']' then some (reader.goTo .item)
    else if c = '-' then some (reader.goTo (.hyphen first))
    else if isSetMember c then some (reader.goTo (.member c))
    else none
  | .hyphen first =>
    if c = ']' then some (reader.goTo .item)
    else if isSetMember c ∧ first ≤ c then some (reader.goTo .range)
    else none
  | .range =>
    if c = ']' then some (reader.goTo .item)
    else if isSetMember c then some (reader.goTo (.member c))
    else none
  | .count least digits =>
    if c.isDigit then some (reader.goTo (.count least (digits ++ [c])))
    else if c = ',' ∧ least = none ∧ digits ≠ [] then some (reader.goTo (.count (some digits) []))
    else if c = '\x7d' ∧ isCount least digits then some (reader.goTo .repetition)
    else none

/-- Read a text. -/
def read (reader : NotationReader) (text : Text) : Option NotationReader := text.foldlM step reader

end NotationReader

/-- How many groups of the notation capture; nothing when it is not valid. -/
def captureGroups? (source : Text) : Option Nat := do
  let reader ← NotationReader.read ⟨.start, 0, 0⟩ source
  if reader.place.isBetween ∧ reader.depth = 0 then some reader.groups else none

/-- The text can stand wherever something new can start, and adds groups that capture. -/
def AddsGroups (text : Text) (added : Nat) : Prop :=
  ∀ reader : NotationReader, reader.place.isBetween = true →
    ∃ place : NotationPlace, place.isBetween = true ∧
      reader.read text = some ⟨place, reader.depth, reader.groups + added⟩

/-! ### Reading a text part by part -/

namespace NotationReader

variable {reader next : NotationReader}

@[simp]
theorem read_nil (reader : NotationReader) : reader.read [] = some reader := rfl

@[simp]
theorem read_cons (reader : NotationReader) (c : Char) (text : Text) :
    reader.read (c :: text) = (reader.step c).bind fun next => next.read text := rfl

theorem read_append (reader : NotationReader) (left right : Text) :
    reader.read (left ++ right) = (reader.read left).bind fun next => next.read right := by
  rw [read, List.foldlM_append]
  rfl

theorem read_append_of_read (h : reader.read left = some next) (right : Text) :
    reader.read (left ++ right) = next.read right := by
  rw [read_append, h, Option.bind_some]

/-- What does not repeat is read in the same way wherever something new can start. -/
theorem step_of_isBetween (h : reader.place.isBetween = true) (hc : c ∉ ['*', '+', '?', '\x7b']) :
    reader.step c = reader.readItem c := by
  simp only [List.mem_cons, List.not_mem_nil, or_false, not_or] at hc
  obtain ⟨place, depth, groups⟩ := reader
  cases place <;> simp_all [NotationPlace.isBetween, step]

end NotationReader

theorem addsGroups_nil : AddsGroups [] 0 := by
  intro reader h
  exact ⟨reader.place, h, rfl⟩

theorem AddsGroups.append {added more : Nat} (hleft : AddsGroups left added)
    (hright : AddsGroups right more) : AddsGroups (left ++ right) (added + more) := by
  intro reader h
  obtain ⟨place, hplace, hread⟩ := hleft reader h
  obtain ⟨last, hlast, hreadRight⟩ := hright ⟨place, reader.depth, reader.groups + added⟩ hplace
  refine ⟨last, hlast, ?_⟩
  rw [NotationReader.read_append_of_read hread, hreadRight, Nat.add_assoc]

theorem captureGroups?_of_addsGroups {added : Nat} (h : AddsGroups text added) :
    captureGroups? text = some added := by
  obtain ⟨place, hplace, hread⟩ := h ⟨.start, 0, 0⟩ rfl
  rw [captureGroups?, hread]
  simp [hplace]

/-! ### Sets -/

/-- Characters that can be listed in brackets: each stands for itself, and a hyphen may stand
behind them. -/
def areSetMembers : Text → Bool
  | [] => false
  | c :: rest => isSetMember c && (rest.isEmpty || rest = ['-'] || areSetMembers rest)

/-- Can the set be written in the notation? -/
def CharSet.isWritable : CharSet → Bool
  | .among members => areSetMembers members
  | .range first last => isSetMember first && isSetMember last && first ≤ last
  | _ => true

section

variable {reader : NotationReader}

theorem isSetMember_iff :
    isSetMember c = true ↔ c ≠ '[' ∧ c ≠ ']' ∧ c ≠ '\\' ∧ c ≠ '^' ∧ c ≠ '-' := by
  simp [isSetMember, setSpecials]

theorem read_escapeChar (h : reader.place.isBetween = true) (c : Char) :
    reader.read (escapeChar c) = some (reader.goTo .item) := by
  rw [escapeChar]
  split
  · next hspecial =>
    have hbackslash : reader.step '\\' = some (reader.goTo .escape) := by
      rw [NotationReader.step_of_isBetween h (by decide)]
      rfl
    have hescaped : (reader.goTo .escape).step c = some (reader.goTo .item) :=
      if_pos (Or.inl hspecial)
    simp [hbackslash, hescaped]
  · next hplain =>
    have hrepeat : c ∉ ['*', '+', '?', '\x7b'] := by
      intro hmem
      apply hplain
      have hall : ['*', '+', '?', '\x7b'].all patternSpecials.contains = true := by decide
      exact List.all_eq_true.1 hall c hmem
    have hstep : reader.step c = some (reader.goTo .item) := by
      rw [NotationReader.step_of_isBetween h hrepeat]
      exact if_neg hplain
    simp [hstep]

/-- The members of a set behind a first one, up to the closing bracket. -/
theorem read_members {place : NotationPlace} {members : Text}
    (hplace : place = .bracket ∨ ∃ d, place = .member d) (h : areSetMembers members = true) :
    (reader.goTo place).read (members ++ [']']) = some (reader.goTo .item) := by
  induction members generalizing place with
  | nil => simp [areSetMembers] at h
  | cons c rest ih =>
    rw [areSetMembers, Bool.and_eq_true, Bool.or_eq_true, Bool.or_eq_true] at h
    obtain ⟨hc, hrest⟩ := h
    obtain ⟨-, hclosing, -, -, hhyphen⟩ := isSetMember_iff.1 hc
    have hstep : (reader.goTo place).step c = some (reader.goTo (.member c)) := by
      rcases hplace with rfl | ⟨d, rfl⟩
      · exact if_pos hc
      · simp [NotationReader.step, NotationReader.goTo, hclosing, hhyphen, hc]
    rw [List.cons_append, NotationReader.read_cons, hstep, Option.bind_some]
    rcases hrest with (hempty | hlast) | hmore
    · obtain rfl := List.isEmpty_iff.1 hempty
      rfl
    · obtain rfl := of_decide_eq_true hlast
      rfl
    · exact ih (Or.inr ⟨c, rfl⟩) hmore

theorem read_range {first last : Char} (hfirst : isSetMember first = true)
    (hlast : isSetMember last = true) (hle : first ≤ last) :
    (reader.goTo .bracket).read [first, '-', last, ']'] = some (reader.goTo .item) := by
  have hstep : (reader.goTo .bracket).step first = some (reader.goTo (.member first)) :=
    if_pos hfirst
  have hrange : (reader.goTo (.hyphen first)).step last = some (reader.goTo .range) := by
    have hclosing : last ≠ ']' := (isSetMember_iff.1 hlast).2.1
    simp [NotationReader.step, NotationReader.goTo, hclosing, hlast, hle]
  rw [NotationReader.read_cons, hstep, Option.bind_some, NotationReader.read_cons]
  change (reader.goTo (.hyphen first)).read [last, ']'] = _
  rw [NotationReader.read_cons, hrange]
  rfl

/-- Behind a set the reader can read a number of repetitions. -/
theorem CharSet.read_source (h : reader.place.isBetween = true) {set : CharSet}
    (hset : set.isWritable = true) : reader.read set.source = some (reader.goTo .item) := by
  have hbracket (rest : Text) : reader.read ('[' :: rest) = (reader.goTo .bracket).read rest := by
    rw [NotationReader.read_cons, NotationReader.step_of_isBetween h (by decide)]
    rfl
  cases set with
  | only c => exact read_escapeChar h c
  | digit =>
    change reader.read ['\\', 'd'] = _
    rw [NotationReader.read_cons, NotationReader.step_of_isBetween h (by decide)]
    rfl
  | letter =>
    change reader.read ('[' :: "A-Za-z]".toList) = _
    exact hbracket _
  | any =>
    change reader.read ['.'] = _
    rw [NotationReader.read_cons, NotationReader.step_of_isBetween h (by decide)]
    rfl
  | among members =>
    change reader.read ('[' :: (members ++ [']'])) = _
    rw [hbracket]
    exact read_members (Or.inl rfl) hset
  | range first last =>
    change reader.read ['[', first, '-', last, ']'] = _
    rw [CharSet.isWritable, Bool.and_eq_true, Bool.and_eq_true] at hset
    rw [hbracket]
    exact read_range hset.1.1 hset.1.2 (of_decide_eq_true hset.2)

/-! ### Numbers of repetitions -/

theorem read_digits (least : Option Text) (digits : Text) (h : ∀ c ∈ text, c.isDigit = true) :
    (reader.goTo (.count least digits)).read text =
      some (reader.goTo (.count least (digits ++ text))) := by
  induction text generalizing digits with
  | nil => rw [List.append_nil, NotationReader.read_nil]
  | cons c text ih =>
    have hstep : (reader.goTo (.count least digits)).step c =
        some (reader.goTo (.count least (digits ++ [c]))) := if_pos (h c List.mem_cons_self)
    rw [NotationReader.read_cons, hstep, Option.bind_some,
      ih (digits ++ [c]) fun d hd => h d (List.mem_cons_of_mem c hd), List.append_assoc,
      List.singleton_append]

/-- A decimal numeral in braces and what follows it. -/
theorem read_decimal (least : Option Text) (n : Nat) (rest : Text) :
    (reader.goTo (.count least [])).read (decimal n ++ rest) =
      (reader.goTo (.count least (decimal n))).read rest :=
  NotationReader.read_append_of_read
    (read_digits least [] fun _ hc => isDigit_of_mem_decimal hc) rest

theorem read_closing {least : Option Text} {digits : Text} (h : isCount least digits = true) :
    (reader.goTo (.count least digits)).read ['\x7d'] = some (reader.goTo .repetition) := by
  have hstep : (reader.goTo (.count least digits)).step '\x7d' =
      some (reader.goTo .repetition) := by
    simp [NotationReader.step, NotationReader.goTo, h]
  rw [NotationReader.read_cons, hstep]
  rfl

theorem read_comma {digits : Text} (h : digits ≠ []) (rest : Text) :
    (reader.goTo (.count none digits)).read (',' :: rest) =
      (reader.goTo (.count (some digits) [])).read rest := by
  have hstep : (reader.goTo (.count none digits)).step ',' =
      some (reader.goTo (.count (some digits) [])) := by
    simp [NotationReader.step, NotationReader.goTo, h]
  rw [NotationReader.read_cons, hstep, Option.bind_some]

/-- The bounds can be written: they are in order and not too large. -/
def areBounds (least : Nat) (most : Option Nat) : Bool :=
  least < repetitionLimit && most.all fun most => least ≤ most && most < repetitionLimit

theorem read_repetitionSource (reader : NotationReader) {least : Nat} {most : Option Nat}
    (h : areBounds least most = true) :
    ∃ place : NotationPlace, (place = .item ∨ place = .repetition) ∧
      (reader.goTo .item).read (repetitionSource least most) = some (reader.goTo place) := by
  have hbrace (rest : Text) :
      (reader.goTo .item).read ('\x7b' :: rest) = (reader.goTo (.count none [])).read rest := rfl
  rw [areBounds, Bool.and_eq_true] at h
  obtain ⟨hleast, hmost⟩ := h
  have hleast' : digitsValue (decimal least) < repetitionLimit := by
    rw [digitsValue_decimal]
    exact of_decide_eq_true hleast
  cases most with
  | none =>
    match least with
    | 0 => exact ⟨.repetition, Or.inr rfl, rfl⟩
    | 1 => exact ⟨.repetition, Or.inr rfl, rfl⟩
    | least + 2 =>
      refine ⟨.repetition, Or.inr rfl, ?_⟩
      change (reader.goTo .item).read ('\x7b' :: (decimal (least + 2) ++ [',', '\x7d'])) = _
      rw [hbrace, read_decimal, read_comma (decimal_ne_nil _)]
      apply read_closing
      simp [isCount, hleast']
  | some most =>
    rw [Option.all_some, Bool.and_eq_true] at hmost
    obtain ⟨horder, hlimit⟩ := hmost
    rw [repetitionSource]
    split
    · exact ⟨.item, Or.inl rfl, rfl⟩
    · refine ⟨.repetition, Or.inr rfl, ?_⟩
      split
      · rw [List.cons_append, hbrace, read_decimal]
        apply read_closing
        simp [isCount, decimal_ne_nil, hleast']
      · rw [List.cons_append, List.cons_append, List.append_assoc, hbrace, read_decimal,
          List.cons_append, read_comma (decimal_ne_nil _), read_decimal]
        apply read_closing
        simp_all [isCount, digitsValue_decimal]

/-! ### Pieces and patterns -/

/-- Can the piece be written in the notation? -/
def PatternPiece.isWritable : PatternPiece → Bool
  | .chars set least most _ => set.isWritable && areBounds least most
  | _ => true

namespace PatternPiece

theorem read_chars (h : reader.place.isBetween = true) {set : CharSet} {least : Nat}
    {most : Option Nat} (greedy : Bool) (hset : set.isWritable = true)
    (hbounds : areBounds least most = true) :
    ∃ place : NotationPlace, place.isBetween = true ∧
      reader.read (source (.chars set least most greedy)) = some (reader.goTo place) := by
  obtain ⟨place, hplace, hread⟩ := read_repetitionSource reader hbounds
  have hsource : reader.read (set.source ++ repetitionSource least most) =
      some (reader.goTo place) := by
    rw [NotationReader.read_append_of_read (CharSet.read_source h hset), hread]
  rw [source, NotationReader.read_append_of_read hsource]
  cases greedy with
  | true =>
    refine ⟨place, ?_, rfl⟩
    rcases hplace with rfl | rfl <;> rfl
  | false =>
    rcases hplace with rfl | rfl
    · exact ⟨.repetition, rfl, rfl⟩
    · exact ⟨.start, rfl, rfl⟩

/-- Only the counter is written as a group that captures. -/
theorem addsGroups_source {piece : PatternPiece} (h : piece.isWritable = true) :
    AddsGroups piece.source piece.isCounter.toNat := by
  intro reader hplace
  have hparenthesis : reader.step '(' = some ⟨.opening, reader.depth + 1, reader.groups⟩ := by
    rw [NotationReader.step_of_isBetween hplace (by decide)]
    rfl
  cases piece with
  | chars set least most greedy =>
    rw [isWritable, Bool.and_eq_true] at h
    exact read_chars hplace greedy h.1 h.2
  | ordinalSuffix =>
    refine ⟨.item, rfl, ?_⟩
    change reader.read ('(' :: "?:st|nd|rd|th)".toList) = _
    rw [NotationReader.read_cons, hparenthesis]
    rfl
  | counter =>
    refine ⟨.item, rfl, ?_⟩
    change reader.read ('(' :: "\\d+)".toList) = _
    rw [NotationReader.read_cons, hparenthesis]
    rfl

end PatternPiece

namespace NamePattern

/-- Can every piece of the pattern be written in the notation? -/
def isWritable (pattern : NamePattern) : Bool := pattern.all PatternPiece.isWritable

theorem addsGroups_piecesSource {pattern : NamePattern} (h : pattern.isWritable = true) :
    AddsGroups pattern.piecesSource pattern.counters := by
  induction pattern with
  | nil => exact addsGroups_nil
  | cons piece pattern ih =>
    rw [isWritable, List.all_cons, Bool.and_eq_true] at h
    have hsource : piecesSource (piece :: pattern) = piece.source ++ piecesSource pattern :=
      List.flatMap_cons
    have hcounters : counters (piece :: pattern) = piece.isCounter.toNat + counters pattern := by
      rw [counters, List.countP_cons, Nat.add_comm]
      cases piece.isCounter <;> rfl
    rw [hsource, hcounters]
    exact (PatternPiece.addsGroups_source h.1).append (ih h.2)

/-- The pattern is tied to an end of the name. -/
theorem addsGroups_anchor (hc : c = '^' ∨ c = '$') : AddsGroups [c] 0 := by
  intro reader h
  refine ⟨.start, rfl, ?_⟩
  rcases hc with rfl | rfl
  · rw [NotationReader.read_cons, NotationReader.step_of_isBetween h (by decide)]
    rfl
  · rw [NotationReader.read_cons, NotationReader.step_of_isBetween h (by decide)]
    rfl

/-- The notation of a pattern is valid, and its groups that capture are the counters. -/
theorem captureGroups?_source {pattern : NamePattern} (h : pattern.isWritable = true) :
    captureGroups? pattern.source = some pattern.counters := by
  apply captureGroups?_of_addsGroups
  have hall := ((addsGroups_anchor (Or.inl rfl)).append (addsGroups_piecesSource h)).append
    (addsGroups_anchor (Or.inr rfl))
  rwa [Nat.zero_add] at hall

/-- Groups that do not capture and parentheses behind a backslash are not counted. -/
example : captureGroups? "(a(?:b|\\(c)*)([A-Z]\x7b2,\x7d?)".toList = some 2 := by decide +kernel

end NamePattern

end

end NoteTemplate
