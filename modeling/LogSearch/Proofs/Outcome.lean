import Mathlib.Data.List.Forall2
import LogSearch.Directory

/-!
# Success and failure of composed operations

An operation made of others succeeds exactly when each of them does, with the
results handed on.  The lemmas here take a success apart into the successes of
the parts, for operations that may fail and for those that also consult the
directory.  A list of operations succeeds with the list of their results.

If one of the parts fails, the operation fails the way the first of them does.
`FirstFailure` says this of the items of a list, whatever it means for one of
them to fail, and `FailsBy` says that an operation fails just so.
-/

namespace LogSearch

section Attempts

variable {ε α β : Type}

theorem bind_eq_ok {first : Except ε α} {next : α → Except ε β} {result : β} :
    (first >>= next) = .ok result ↔ ∃ value, first = .ok value ∧ next value = .ok result := by
  cases first <;> simp [bind, Except.bind]

theorem pure_eq_ok {value result : α} :
    (pure value : Except ε α) = .ok result ↔ value = result := by
  simp [pure, Except.pure]

@[simp]
theorem pure_ne_error {value : α} {error : ε} : (pure value : Except ε α) ≠ .error error :=
  fun h => nomatch h

theorem map_eq_ok {first : Except ε α} {f : α → β} {result : β} :
    first.map f = .ok result ↔ ∃ value, first = .ok value ∧ f value = result := by
  cases first <;> simp [Except.map]

theorem mapError_eq_ok {ε' : Type} {first : Except ε α} {f : ε → ε'} {result : α} :
    first.mapError f = .ok result ↔ first = .ok result := by
  cases first <;> simp [Except.mapError]

theorem bind_eq_error {first : Except ε α} {next : α → Except ε β} {error : ε} :
    (first >>= next) = .error error ↔
      first = .error error ∨ ∃ value, first = .ok value ∧ next value = .error error := by
  cases first <;> simp [bind, Except.bind]

theorem map_eq_error {first : Except ε α} {f : α → β} {error : ε} :
    first.map f = .error error ↔ first = .error error := by
  cases first <;> simp [Except.map]

/-- An operation that fails in no way succeeds. -/
theorem forall_ne_error_iff {outcome : Except ε α} :
    (∀ error, outcome ≠ .error error) ↔ ∃ value, outcome = .ok value := by
  cases outcome <;> simp

theorem mapM_eq_ok_iff {f : α → Except ε β} {items : List α} {results : List β} :
    items.mapM f = .ok results ↔
      List.Forall₂ (fun item result => f item = .ok result) items results := by
  induction items generalizing results with
  | nil =>
    rw [List.mapM_nil, pure_eq_ok, List.forall₂_nil_left_iff]
    exact eq_comm
  | cons first rest ih =>
    simp only [List.mapM_cons, bind_eq_ok, pure_eq_ok, ih]
    constructor
    · rintro ⟨result, hFirst, others, hRest, rfl⟩
      exact .cons hFirst hRest
    · intro hAll
      cases hAll with
      | cons hFirst hRest => exact ⟨_, hFirst, _, hRest, rfl⟩

/-! Whether an operation succeeds at all, with whatever result. -/

theorem exists_pure_eq_ok (value : α) : ∃ result, (pure value : Except ε α) = .ok result :=
  ⟨value, rfl⟩

theorem exists_map_eq_ok_iff {outcome : Except ε α} {f : α → β} :
    (∃ result, outcome.map f = .ok result) ↔ ∃ value, outcome = .ok value := by
  cases outcome <;> simp [Except.map]

theorem exists_bind_eq_ok_iff {first : Except ε α} {next : α → Except ε β} :
    (∃ result, (first >>= next) = .ok result) ↔
      ∃ value, first = .ok value ∧ ∃ result, next value = .ok result := by
  simp only [bind_eq_ok]
  constructor
  · rintro ⟨result, value, hFirst, hNext⟩
    exact ⟨value, hFirst, result, hNext⟩
  · rintro ⟨value, hFirst, result, hNext⟩
    exact ⟨result, value, hFirst, hNext⟩

end Attempts

section Lists

variable {α β : Type} {R : α → β → Prop} {items : List α} {results : List β}

/-- What follows for each item separately follows for the whole list. -/
theorem forall₂_imp_of_mem {S : α → β → Prop}
    (hEach : ∀ item ∈ items, ∀ {result}, R item result → S item result)
    (h : List.Forall₂ R items results) : List.Forall₂ S items results :=
  ((List.forall₂_and_left _ _).mpr ⟨hEach, h⟩).imp fun _ _ hItem => hItem.1 hItem.2

theorem exists_mem_of_forall₂ (h : List.Forall₂ R items results) {result : β}
    (hResult : result ∈ results) : ∃ item ∈ items, R item result := by
  induction h with
  | nil => contradiction
  | @cons item first items results hFirst hRest ih =>
    rcases List.mem_cons.mp hResult with rfl | hLater
    · exact ⟨item, List.mem_cons_self, hFirst⟩
    · obtain ⟨other, hOther, hRelated⟩ := ih hLater
      exact ⟨other, List.mem_cons_of_mem _ hOther, hRelated⟩

theorem exists_getElem?_of_forall₂ (h : List.Forall₂ R items results) {place : Nat} {item : α}
    (hItem : items[place]? = some item) :
    ∃ result, results[place]? = some result ∧ R item result := by
  induction h generalizing place with
  | nil => simp at hItem
  | @cons first other items results hFirst hRest ih =>
    cases place with
    | zero =>
      obtain rfl : first = item := by simpa using hItem
      exact ⟨other, rfl, hFirst⟩
    | succ place => exact ih (by simpa using hItem)

theorem exists_forall₂ (h : ∀ item ∈ items, ∃ result, R item result) :
    ∃ results, List.Forall₂ R items results := by
  induction items with
  | nil => exact ⟨[], .nil⟩
  | cons first rest ih =>
    obtain ⟨result, hFirst⟩ := h first List.mem_cons_self
    obtain ⟨results, hRest⟩ := ih fun item hItem => h item (List.mem_cons_of_mem _ hItem)
    exact ⟨result :: results, .cons hFirst hRest⟩

theorem exists_mapM_eq_ok_iff {ε : Type} {f : α → Except ε β} :
    (∃ results, items.mapM f = .ok results) ↔ ∀ item ∈ items, ∃ result, f item = .ok result := by
  simp only [mapM_eq_ok_iff]
  constructor
  · rintro ⟨results, hResults⟩ item hItem
    obtain ⟨place, hPlace⟩ := List.mem_iff_getElem?.mp hItem
    obtain ⟨result, -, hResult⟩ := exists_getElem?_of_forall₂ hResults hPlace
    exact ⟨result, hResult⟩
  · exact exists_forall₂

end Lists

section Failures

variable {ε α β : Type} {fails gives : α → ε → Prop} {items : List α} {error : ε}

/-- Some item of a list fails with the given error, and none before it fails. -/
def FirstFailure (fails : α → ε → Prop) (items : List α) (error : ε) : Prop :=
  ∃ before item after, items = before ++ item :: after ∧
    (∀ earlier ∈ before, ∀ other, ¬ fails earlier other) ∧ fails item error

@[simp]
theorem not_firstFailure_nil : ¬ FirstFailure fails [] error := by
  rintro ⟨before, item, after, hItems, -, -⟩
  simp at hItems

theorem firstFailure_cons_iff {first : α} {rest : List α} :
    FirstFailure fails (first :: rest) error ↔
      fails first error ∨ (∀ other, ¬ fails first other) ∧ FirstFailure fails rest error := by
  constructor
  · rintro ⟨before, item, after, hItems, hBefore, hItem⟩
    cases before with
    | nil =>
      obtain ⟨rfl, rfl⟩ := List.cons.inj hItems
      exact Or.inl hItem
    | cons head tail =>
      obtain ⟨rfl, rfl⟩ := List.cons.inj hItems
      obtain ⟨hHead, hTail⟩ := List.forall_mem_cons.mp hBefore
      exact Or.inr ⟨hHead, tail, item, after, rfl, hTail, hItem⟩
  · rintro (hFirst | ⟨hFirst, before, item, after, rfl, hBefore, hItem⟩)
    · exact ⟨[], first, rest, rfl, by simp, hFirst⟩
    · exact ⟨first :: before, item, after, rfl, List.forall_mem_cons.mpr ⟨hFirst, hBefore⟩, hItem⟩

theorem FirstFailure.exists_mem (h : FirstFailure fails items error) :
    ∃ item ∈ items, fails item error := by
  obtain ⟨before, item, after, rfl, -, hItem⟩ := h
  exact ⟨item, by simp, hItem⟩

/-- A list whose items do not all pass has a first one that fails. -/
theorem exists_firstFailure_iff :
    (∃ error, FirstFailure fails items error) ↔ ∃ item ∈ items, ∃ error, fails item error := by
  induction items with
  | nil => simp
  | cons first rest ih =>
    simp only [firstFailure_cons_iff, List.exists_mem_cons_iff, exists_or, exists_and_left, ih,
      ← not_exists]
    tauto

theorem forall_not_firstFailure_iff :
    (∀ error, ¬ FirstFailure fails items error) ↔ ∀ item ∈ items, ∀ error, ¬ fails item error := by
  have hSome : (∃ error, FirstFailure fails items error) ↔
      ∃ item ∈ items, ∃ error, fails item error := exists_firstFailure_iff
  simpa only [not_exists, not_and] using not_congr hSome

theorem firstFailure_append_iff {others : List α} :
    FirstFailure fails (items ++ others) error ↔
      FirstFailure fails items error ∨
        (∀ other, ¬ FirstFailure fails items other) ∧ FirstFailure fails others error := by
  rw [forall_not_firstFailure_iff]
  induction items with
  | nil => simp
  | cons first rest ih =>
    simp only [List.cons_append, firstFailure_cons_iff, ih, List.forall_mem_cons]
    tauto

theorem firstFailure_congr (h : ∀ item ∈ items, ∀ error, fails item error ↔ gives item error) :
    FirstFailure fails items error ↔ FirstFailure gives items error := by
  induction items with
  | nil => simp
  | cons first rest ih =>
    obtain ⟨hFirst, hRest⟩ := List.forall_mem_cons.mp h
    simp only [firstFailure_cons_iff, hFirst, ih hRest]

/-- An operation fails exactly if some item of a list fails, and the way the first of them does. -/
def FailsBy (outcome : Except ε β) (fails : α → ε → Prop) (items : List α) : Prop :=
  ∀ error, outcome = .error error ↔ FirstFailure fails items error

theorem failsBy_pure (value : β) : FailsBy (pure value) fails [] := by
  intro error
  simp

theorem failsBy_singleton {outcome : Except ε β} {item : α}
    (h : ∀ error, outcome = .error error ↔ fails item error) : FailsBy outcome fails [item] := by
  intro error
  simp [firstFailure_cons_iff, h]

theorem FailsBy.bind {γ : Type} {first : Except ε β} {next : β → Except ε γ} {others : List α}
    (hFirst : FailsBy first fails items)
    (hNext : ∀ value, first = .ok value → FailsBy (next value) fails others) :
    FailsBy (first >>= next) fails (items ++ others) := by
  intro error
  have hPassed : (∀ other, ¬ FirstFailure fails items other) ↔ ∃ value, first = .ok value := by
    rw [← forall_ne_error_iff]
    exact forall_congr' fun other => not_congr (hFirst other).symm
  have hLater : (∃ value, first = .ok value ∧ next value = .error error) ↔
      (∃ value, first = .ok value) ∧ FirstFailure fails others error := by
    constructor
    · rintro ⟨value, hValue, hFails⟩
      exact ⟨⟨value, hValue⟩, (hNext value hValue error).mp hFails⟩
    · rintro ⟨⟨value, hValue⟩, hFails⟩
      exact ⟨value, hValue, (hNext value hValue error).mpr hFails⟩
  rw [bind_eq_error, firstFailure_append_iff, hPassed, hLater, hFirst error]

theorem FailsBy.bind_pure {γ : Type} {first : Except ε β} {f : β → γ}
    (h : FailsBy first fails items) :
    FailsBy (first >>= fun value => pure (f value)) fails items := by
  have hBind : FailsBy (first >>= fun value => pure (f value)) fails (items ++ []) :=
    h.bind fun value _ => failsBy_pure (f value)
  rwa [List.append_nil] at hBind

theorem failsBy_mapM {f : α → Except ε β} :
    FailsBy (items.mapM f) (fun item error => f item = .error error) items := by
  induction items with
  | nil => exact failsBy_pure _
  | cons first rest ih =>
    rw [List.mapM_cons]
    exact (failsBy_singleton fun _ => Iff.rfl).bind fun _ _ => ih.bind_pure

end Failures

namespace Consult

variable {α β : Type}

theorem outcome_bind (first : Consult α) (next : α → Consult β) :
    (first >>= next).outcome = first.outcome >>= fun value => (next value).outcome := by
  cases h : first.outcome with
  | ok value => rw [bind_of_ok h]; rfl
  | error error => rw [bind_of_error h]; rfl

/-- Results that are changed one after the other can be changed at once. -/
theorem bind_pure_bind_pure {γ : Type} (first : Consult α) (f : α → β) (g : β → γ) :
    ((first >>= fun value => pure (f value)) >>= fun value => pure (g value)) =
      first >>= fun value => pure (g (f value)) := by
  cases h : first.outcome with
  | ok value =>
    have hFirst : (first >>= fun value => pure (f value)).outcome = .ok (f value) := by
      rw [bind_of_ok h]
      rfl
    rw [bind_of_ok hFirst, bind_of_ok h, bind_of_ok h]
    simp
  | error error =>
    have hFirst : (first >>= fun value => pure (f value)).outcome = .error error := by
      rw [bind_of_error h]
    rw [bind_of_error hFirst, bind_of_error h, bind_of_error h]

theorem bind_eq_ok {first : Consult α} {next : α → Consult β} {result : β} :
    (first >>= next).outcome = .ok result ↔
      ∃ value, first.outcome = .ok value ∧ (next value).outcome = .ok result := by
  rw [outcome_bind, LogSearch.bind_eq_ok]

theorem bind_eq_error {first : Consult α} {next : α → Consult β} {error : SearchError} :
    (first >>= next).outcome = .error error ↔
      first.outcome = .error error ∨
        ∃ value, first.outcome = .ok value ∧ (next value).outcome = .error error := by
  rw [outcome_bind, LogSearch.bind_eq_error]

end Consult

end LogSearch
