import LogSearch.Proofs.RoundTrip

/-!
# States read back

The JSON form of a state leaves out what is not set, at two levels: the fields of an
override, and those of a change of paging.  Nothing is lost by it.  A state whose
time ranges were checked is read back as it was (`RunState.ofJson_toJson`), whatever
names its tables use and whatever values its parameters have.

A state that is built up from the empty one is of this kind, as long as the
overrides put into it take their time ranges from the constructors that check them:
`checked_change` says so of one change and `checked_built` of a sequence.
-/

namespace LogSearch

open Json

/-! ### Overrides -/

theorem PagingOverride.ofJson_toJson (paging : PagingOverride) :
    ofJson paging.toJson = .ok paging := by
  have hWord (n : UInt32) : word n ≠ .null ∧ asWord (word n) = .ok n :=
    ⟨by simp [word], asWord_word n⟩
  refine asRecord_obj (by simp [fields]) ?_
  refine (readPresent_set (gives_option ?_ fun limit _ => hWord limit) rfl).trans <|
    readPresent_set (gives_option ?_ fun offset _ => hWord offset) rfl
  all_goals simp [List.lookup_append]

theorem Override.ofJson_toJson {override : Override} (h : override.Checked) :
    ofJson override.toJson = .ok override := by
  have hRange (range : TimeRange) (hSet : override.timeRange = some range) :
      range.toJson ≠ .null ∧ TimeRange.ofJson range.toJson = .ok range := by
    refine ⟨?_, TimeRange.ofJson_toJson (h range hSet)⟩
    cases range <;> simp [TimeRange.toJson]
  have hText (text : QueryText) :
      text.toJson ≠ .null ∧ QueryText.ofJson text.toJson = .ok text :=
    ⟨by simp [QueryText.toJson], text.ofJson_toJson⟩
  refine asRecord_obj (by simp [fields]) ?_
  -- from the names to keep to the time range, since fields are read in ascending order of names
  refine (readPresent_set (gives_names ?_) rfl).trans <|
    (readPresent_set (gives_names ?_) rfl).trans <|
    (readPresent_set (gives_option ?_ fun text _ => hText text) rfl).trans <|
    (readPresent_set (gives_keyed ?_ fun _ paging _ => paging.ofJson_toJson) rfl).trans <|
    readPresent_set (gives_option ?_ hRange) rfl
  all_goals simp [List.lookup_append]

/-! ### States -/

namespace RunState

/-- A state whose time ranges were checked is read back as it was. -/
theorem ofJson_toJson {state : RunState} (h : state.Checked) :
    ofJson state.toJson = .ok state := by
  have hQueries : (keyed Override.toJson state.queries).asKeyed Override.ofJson =
      .ok state.queries :=
    asKeyed_keyed fun id override hGet => Override.ofJson_toJson (h.queries id override hGet)
  have hSearchTypes : (keyed PagingOverride.toJson state.searchTypes).asKeyed
      PagingOverride.ofJson = .ok state.searchTypes :=
    asKeyed_keyed fun _ paging _ => paging.ofJson_toJson
  have hParameters : (keyed id state.parameters).asKeyed asAny = .ok state.parameters :=
    asKeyed_keyed fun _ _ _ => rfl
  refine asRecord_obj (by simp [fields]) ?_
  exact (readPresent_set (gives_value rfl (Override.ofJson_toJson h.global)) rfl).trans <|
    (readPresent_set (gives_value rfl hParameters) rfl).trans <|
    (readPresent_set (gives_value rfl hQueries) rfl).trans <|
    readPresent_set (gives_value rfl hSearchTypes) rfl

/-! ### Building states -/

/-- What is put into a state. -/
inductive Change
  /-- An override for all queries. -/
  | global (override : Override)
  /-- An override for a query. -/
  | query (id : String) (override : Override)
  /-- Other paging of a search type. -/
  | searchType (id : String) (paging : PagingOverride)
  /-- A value for a parameter. -/
  | parameter (name : String) (value : Json)

/-- The time range that a change brings along, if it does. -/
def Change.timeRange? : Change → Option TimeRange
  | .global override | .query _ override => override.timeRange
  | .searchType _ _ | .parameter _ _ => none

/-- A time range that a change brings along was let through when it was made. -/
def Change.Admissible (change : Change) : Prop :=
  ∀ range, change.timeRange? = some range → range.Constructed

/-- The state with a change made. -/
def change (state : RunState) : Change → RunState
  | .global override => state.withGlobal override
  | .query id override => state.withQuery id override
  | .searchType id paging => state.withSearchType id paging
  | .parameter name value => state.withParameter name value

/-- The state that changes build up from the empty one, each made after those before it. -/
def built (changes : List Change) : RunState :=
  changes.foldl change .empty

theorem checked_empty : empty.Checked :=
  ⟨Override.checked_empty, fun _ _ hGet => by contradiction⟩

/-- No change but one of overrides matters, and an override replaces the one before as a whole. -/
theorem checked_change {state : RunState} {entry : Change} (hState : state.Checked)
    (hEntry : entry.Admissible) : (state.change entry).Checked := by
  cases entry with
  | global override => exact ⟨fun range hRange => (hEntry range hRange).checked, hState.queries⟩
  | query id override =>
    refine ⟨hState.global, fun other found hGet => ?_⟩
    by_cases hSame : other = id
    · rw [hSame, change, withQuery, Keyed.get?_insert_self, Option.some.injEq] at hGet
      rw [← hGet]
      exact fun range hRange => (hEntry range hRange).checked
    · rw [change, withQuery, Keyed.get?_insert_of_ne hSame] at hGet
      exact hState.queries other found hGet
  | searchType id paging => exact ⟨hState.global, hState.queries⟩
  | parameter name value => exact ⟨hState.global, hState.queries⟩

theorem checked_built {changes : List Change} (h : ∀ change ∈ changes, change.Admissible) :
    (built changes).Checked :=
  changes.foldlRecOn change checked_empty fun _ hState entry hEntry =>
    checked_change hState (h entry hEntry)

/-- A state built up by any changes is read back as it is: the overrides for all queries and for
single ones, with what they leave unset, the names they keep and their changes of paging, and the
parameters.  So the same override takes effect for each query as before, and the same change of
paging for each search type. -/
theorem ofJson_toJson_built {changes : List Change}
    (h : ∀ change ∈ changes, change.Admissible) :
    ofJson (built changes).toJson = .ok (built changes) :=
  ofJson_toJson (checked_built h)

/-- Two of the overrides set nothing but names to keep and paging, one of them for a query whose id
is the empty text.  A later override for the same query replaces the earlier one. -/
theorem ofJson_toJson_built_of_all_changes :
    let paging : PagingOverride := { limit := some 4294967295 }
    let changes : List Change := [
      .global { keepQueries := .ofList ["b", "a", "b"], searchTypes := .ofList [("", paging)] },
      .query "a" { timeRange := some (.relative 60), query := some ⟨"$q$"⟩ },
      .query "" { keepSearchTypes := .singleton "" },
      .query "a" { timeRange := some (.keyword "today" (some "UTC")) },
      .searchType "list" {},
      .parameter "q" (.obj [("b", .null), ("a", .arr [.bool true])])]
    (built changes).effectiveOverride? "a" =
        some { timeRange := some (.keyword "today" (some "UTC")) } ∧
      (built changes).paging? "" = some paging ∧
      ofJson (built changes).toJson = .ok (built changes) := by
  intro paging changes
  have hRelative : TimeRange.relative? 60 = .ok (.relative 60) := rfl
  have hKeyword : TimeRange.keyword? "today" (some "UTC") = .ok (.keyword "today" (some "UTC")) :=
    rfl
  have hAdmissible : ∀ change ∈ changes, change.Admissible := by
    simpa [changes, Change.Admissible, Change.timeRange?] using
      And.intro (TimeRange.Constructed.relative hRelative) (TimeRange.Constructed.keyword hKeyword)
  exact ⟨by decide, by decide, ofJson_toJson_built hAdmissible⟩

end RunState

end LogSearch
