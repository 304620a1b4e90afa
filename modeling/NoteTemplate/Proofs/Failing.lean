import NoteTemplate.Failure

/-!
# Computations that may fail

What can be said about the failures of a computation is put together from its steps, and a
result says that every step had one.
-/

namespace NoteTemplate

variable {α β ε : Type} {explains : ε → Prop}

/-! ### Results -/

theorem ok_bind (value : α) (next : α → Except ε β) : (.ok value >>= next) = next value := rfl

theorem bind_eq_ok_iff {first : Except ε α} {next : α → Except ε β} {result : β} :
    (first >>= next) = .ok result ↔ ∃ value, first = .ok value ∧ next value = .ok result := by
  cases first with
  | error failure => simp [bind, Except.bind]
  | ok value => simp [bind, Except.bind]

theorem map_eq_ok_iff {first : Except ε α} {f : α → β} {result : β} :
    f <$> first = .ok result ↔ ∃ value, first = .ok value ∧ f value = result := by
  cases first with
  | error failure => simp [Functor.map, Except.map]
  | ok value => simp [Functor.map, Except.map]

theorem exists_of_mapM {read : α → Except ε β} {items : List α} {results : List β}
    (h : items.mapM read = .ok results) :
    ∀ result ∈ results, ∃ item ∈ items, read item = .ok result := by
  induction items generalizing results with
  | nil =>
    obtain rfl := Except.ok.inj h
    simp
  | cons item items ih =>
    rw [List.mapM_cons] at h
    obtain ⟨first, hfirst, h⟩ := bind_eq_ok_iff.1 h
    obtain ⟨more, hmore, h⟩ := bind_eq_ok_iff.1 h
    obtain rfl := Except.ok.inj h
    intro result hresult
    rcases List.mem_cons.1 hresult with rfl | hresult
    · exact ⟨item, List.mem_cons_self, hfirst⟩
    · obtain ⟨other, hother, hread⟩ := ih hmore result hresult
      exact ⟨other, List.mem_cons_of_mem _ hother, hread⟩

/-! ### Failures -/

/-- The result is there, or the failure is one of these. -/
def OnlyFails (explains : ε → Prop) (result : Except ε α) : Prop :=
  ∀ error, result = .error error → explains error

theorem onlyFails_ok (value : α) : OnlyFails explains (.ok value : Except ε α) := by
  intro error h
  cases h

theorem onlyFails_error {error : ε} (h : explains error) :
    OnlyFails explains (.error error : Except ε α) := by
  rintro _ ⟨⟩
  exact h

theorem onlyFails_ite {condition : Prop} [Decidable condition] {first second : Except ε α}
    (hfirst : OnlyFails explains first) (hsecond : OnlyFails explains second) :
    OnlyFails explains (if condition then first else second) := by
  split
  · exact hfirst
  · exact hsecond

theorem OnlyFails.bind {result : Except ε α} {next : α → Except ε β}
    (h : OnlyFails explains result) (hnext : ∀ value, OnlyFails explains (next value)) :
    OnlyFails explains (result >>= next) := by
  cases result with
  | error error => exact onlyFails_error (h error rfl)
  | ok value => exact hnext value

theorem OnlyFails.map {result : Except ε α} (h : OnlyFails explains result) (f : α → β) :
    OnlyFails explains (f <$> result) := by
  cases result with
  | error error => exact onlyFails_error (h error rfl)
  | ok value => exact onlyFails_ok _

theorem onlyFails_mapM {f : α → Except ε β} {items : List α}
    (h : ∀ item ∈ items, OnlyFails explains (f item)) : OnlyFails explains (items.mapM f) := by
  induction items with
  | nil => exact onlyFails_ok _
  | cons item items ih =>
    rw [List.mapM_cons]
    apply (h item List.mem_cons_self).bind
    intro value
    apply (ih fun other hother => h other (List.mem_cons_of_mem _ hother)).bind
    intro values
    exact onlyFails_ok _

end NoteTemplate
