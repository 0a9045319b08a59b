import LogSearch.Query
import LogSearch.Proofs.SearchTypes

/-!
# What a state of a run changes about a query

A state changes a query in two ways that do not know of each other.  The override
that takes effect replaces the time range and the text, as far as it sets them,
and is recorded.  A change of paging replaces the paging of the search type it is
for.  Which override and which change of paging are meant is said by
`RunState.Overrides` and `RunState.Repages`; in both cases one entry is taken as
a whole and nothing is mixed.  What a change of paging makes of a search type is said
by `SearchType.Repaged`.

All of this is in one equation, `Query.applyState_eq`.  It also shows that the
choice depends on ids alone, which no state changes: a state applied again finds
the same entries and does nothing more, and it does not matter whether the filter
tree is changed before or after.
-/

namespace LogSearch

/-! ### Which entries are meant -/

/-- A time range or a query text is overridden. -/
def Override.Sets (override : Override) : Prop :=
  override.timeRange ≠ none ∨ override.query ≠ none

theorem Override.isEmpty_eq_false_iff {override : Override} :
    override.isEmpty = false ↔ override.Sets := by
  unfold isEmpty Sets
  cases override.timeRange <;> cases override.query <;> simp

theorem Override.isEmpty_eq_true_iff {override : Override} :
    override.isEmpty = true ↔ ¬ override.Sets := by
  rw [← isEmpty_eq_false_iff, Bool.not_eq_false]

namespace RunState

/-- The override that takes effect for a query, if there is one. -/
inductive Overrides (state : RunState) (queryId : String) : Option Override → Prop
  /-- The override for all queries sets something. -/
  | global (hSets : state.global.Sets) : Overrides state queryId (some state.global)
  /-- It does not, but the query's own override does. -/
  | own {override : Override} (hGlobal : ¬ state.global.Sets)
      (hOwn : state.queries.get? queryId = some override) (hSets : override.Sets) :
      Overrides state queryId (some override)
  /-- Neither does. -/
  | none (hGlobal : ¬ state.global.Sets)
      (hOwn : ∀ override, state.queries.get? queryId = some override → ¬ override.Sets) :
      Overrides state queryId none

/-- The change of paging for a search type, if there is one. -/
inductive Repages (state : RunState) (searchTypeId : String) : Option PagingOverride → Prop
  /-- The state has one of its own. -/
  | own {paging : PagingOverride} (hOwn : state.searchTypes.get? searchTypeId = some paging) :
      Repages state searchTypeId (some paging)
  /-- The state has none of its own, but the override for all queries has one. -/
  | nested {paging : PagingOverride} (hOwn : state.searchTypes.get? searchTypeId = Option.none)
      (hNested : state.global.searchTypes.get? searchTypeId = some paging) :
      Repages state searchTypeId (some paging)
  /-- Neither has one. -/
  | none (hOwn : state.searchTypes.get? searchTypeId = Option.none)
      (hNested : state.global.searchTypes.get? searchTypeId = Option.none) :
      Repages state searchTypeId none

variable {state : RunState}

theorem overrides_effectiveOverride? (queryId : String) :
    state.Overrides queryId (state.effectiveOverride? queryId) := by
  unfold effectiveOverride?
  cases hGlobal : state.global.isEmpty with
  | false => exact .global (Override.isEmpty_eq_false_iff.mp hGlobal)
  | true =>
    have hUnset := Override.isEmpty_eq_true_iff.mp hGlobal
    cases hOwn : state.queries.get? queryId with
    | none => exact .none hUnset fun override hOverride => by simp [hOwn] at hOverride
    | some override =>
      cases hEmpty : override.isEmpty with
      | false =>
        have hChosen : (some override).filter (fun override => !override.isEmpty) =
            some override := by simp [hEmpty]
        rw [Bool.not_true, if_neg Bool.false_ne_true, hChosen]
        exact .own hUnset hOwn (Override.isEmpty_eq_false_iff.mp hEmpty)
      | true =>
        have hChosen : (some override).filter (fun override => !override.isEmpty) = none := by
          simp [hEmpty]
        rw [Bool.not_true, if_neg Bool.false_ne_true, hChosen]
        refine .none hUnset fun other hOther => ?_
        obtain rfl : override = other := Option.some.inj (hOwn.symm.trans hOther)
        exact Override.isEmpty_eq_true_iff.mp hEmpty

theorem repages_paging? (searchTypeId : String) :
    state.Repages searchTypeId (state.paging? searchTypeId) := by
  unfold paging?
  cases hOwn : state.searchTypes.get? searchTypeId with
  | some paging => exact .own hOwn
  | none =>
    cases hNested : state.global.searchTypes.get? searchTypeId with
    | some paging => exact .nested hOwn hNested
    | none => exact .none hOwn hNested

/-- A search type for which a state holds no change of paging is found to have none. -/
theorem Repages.paging?_eq_none {searchTypeId : String}
    (h : state.Repages searchTypeId Option.none) : state.paging? searchTypeId = Option.none := by
  cases h with
  | none hOwn hNested => rw [paging?, hOwn, hNested]; rfl

/-- An override for all queries that sets something hides those for single queries. -/
theorem effectiveOverride?_eq_global (h : state.global.Sets) (queryId : String) :
    state.effectiveOverride? queryId = some state.global := by
  rw [effectiveOverride?, Override.isEmpty_eq_false_iff.mpr h]
  rfl

end RunState

/-! ### Changing the paging of a search type -/

/-- A message list with a change of paging.  A limit above zero and an offset are taken as they
are. -/
structure MessageList.Repaged (paging : PagingOverride) (list changed : MessageList) : Prop where
  limit : ∀ limit, paging.limit = some limit → 0 < limit → changed.limit = limit
  keepsLimit : (∀ limit, paging.limit = some limit → limit = 0) → changed.limit = list.limit
  offset : ∀ offset, paging.offset = some offset → changed.offset = offset
  keepsOffset : paging.offset = none → changed.offset = list.offset
  sort : changed.sort = list.sort

/-- An event list with a change of paging.  A limit above zero becomes the size of the pages, and an
offset the page that it lies on, which is found with the new size. -/
structure EventList.Repaged (paging : PagingOverride) (list changed : EventList) : Prop where
  perPage : ∀ limit, paging.limit = some limit → 0 < limit → changed.perPage = some limit
  keepsPerPage : (∀ limit, paging.limit = some limit → limit = 0) →
    changed.perPage = list.perPage
  page : ∀ offset, paging.offset = some offset → ∃ page, changed.page = some page ∧
    page.toNat = min (offset.toNat / (changed.perPage.getD 10).toNat + 1) maxUnsigned32
  keepsPage : paging.offset = none → changed.page = list.page
  attributes : changed.attributes = list.attributes
  sort : changed.sort = list.sort

/-- What is particular to a search type, with a change of paging.  Pivots are not paged. -/
inductive SearchDetail.Repaged (paging : PagingOverride) : (detail changed : SearchDetail) → Prop
  | messages {list changed : MessageList} (h : list.Repaged paging changed) :
      Repaged paging (.messages list) (.messages changed)
  | events {list changed : EventList} (h : list.Repaged paging changed) :
      Repaged paging (.events list) (.events changed)
  | pivot (table : Pivot) : Repaged paging (.pivot table) (.pivot table)

/-- A search type with a change of paging. -/
structure SearchType.Repaged (paging : PagingOverride) (search changed : SearchType) : Prop where
  id : changed.id = search.id
  name : changed.name = search.name
  streams : changed.streams = search.streams
  detail : search.detail.Repaged paging changed.detail

namespace SearchType

variable (paging : PagingOverride) (search : SearchType)

@[simp]
theorem id_repage : (search.repage paging).id = search.id := by
  unfold repage
  split <;> rfl

@[simp]
theorem streams_repage : (search.repage paging).streams = search.streams := by
  unfold repage
  split <;> rfl

@[simp]
theorem kind_repage : (search.repage paging).kind = search.kind := by
  obtain ⟨id, name, streams, detail⟩ := search
  cases detail <;> rfl

@[simp]
theorem name_repage : (search.repage paging).name = search.name := by
  unfold repage
  split <;> rfl

theorem repaged_repageMessages (list : MessageList) :
    list.Repaged paging (repageMessages paging list) where
  limit limit hLimit hPos := by rw [limit_repageMessages, usableLimit?_of_pos hLimit hPos]; rfl
  keepsLimit hNone := by rw [limit_repageMessages, usableLimit?_eq_none hNone]; rfl
  offset offset hOffset := by rw [offset_repageMessages, hOffset]; rfl
  keepsOffset hNone := by rw [offset_repageMessages, hNone]; rfl
  sort := rfl

theorem repaged_repageEvents (list : EventList) :
    list.Repaged paging (repageEvents paging list) where
  perPage limit hLimit hPos := by rw [perPage_repageEvents, usableLimit?_of_pos hLimit hPos]; rfl
  keepsPerPage hNone := by rw [perPage_repageEvents, usableLimit?_eq_none hNone]; rfl
  page offset hOffset := ⟨_, page_repageEvents_of_offset hOffset list, toNat_pageOf _ _⟩
  keepsPage hNone := by rw [repageEvents, hNone]
  attributes := by unfold repageEvents; cases paging.offset <;> rfl
  sort := by unfold repageEvents; cases paging.offset <;> rfl

theorem repaged_repage : search.Repaged paging (search.repage paging) where
  id := search.id_repage paging
  name := search.name_repage paging
  streams := search.streams_repage paging
  detail := by
    obtain ⟨id, name, streams, detail⟩ := search
    cases detail with
    | messages list => exact .messages (repaged_repageMessages paging list)
    | events list => exact .events (repaged_repageEvents paging list)
    | pivot table => exact .pivot table

theorem repageMessages_repageMessages (list : MessageList) :
    repageMessages paging (repageMessages paging list) = repageMessages paging list := by
  unfold repageMessages
  cases paging.usableLimit? <;> cases paging.offset <;> rfl

/-- The page of an event list is found from the page size that the change asks for, which is the
same the second time. -/
theorem repageEvents_repageEvents (list : EventList) :
    repageEvents paging (repageEvents paging list) = repageEvents paging list := by
  unfold repageEvents
  cases paging.usableLimit? <;> cases paging.offset <;> rfl

theorem repage_repage : (search.repage paging).repage paging = search.repage paging := by
  obtain ⟨id, name, streams, detail⟩ := search
  cases detail with
  | messages list => simp only [repage, repageMessages_repageMessages]
  | events list => simp only [repage, repageEvents_repageEvents]
  | pivot pivot => rfl

end SearchType

namespace RunState

variable (state : RunState) (search : SearchType)

theorem repaged_cases :
    (state.paging? search.id = none ∧ state.repaged search = search) ∨
      ∃ paging, state.paging? search.id = some paging ∧
        state.repaged search = search.repage paging := by
  unfold repaged
  cases state.paging? search.id with
  | none => exact Or.inl ⟨rfl, rfl⟩
  | some paging => exact Or.inr ⟨paging, rfl, rfl⟩

@[simp]
theorem id_repaged : (state.repaged search).id = search.id := by
  rcases state.repaged_cases search with ⟨-, hSame⟩ | ⟨paging, -, hChanged⟩
  · rw [hSame]
  · rw [hChanged, SearchType.id_repage]

theorem map_id_repaged (searchTypes : List SearchType) :
    (searchTypes.map state.repaged).map SearchType.id = searchTypes.map SearchType.id := by
  rw [List.map_map]
  exact List.map_congr_left fun search _ => state.id_repaged search

@[simp]
theorem kind_repaged : (state.repaged search).kind = search.kind := by
  rcases state.repaged_cases search with ⟨-, hSame⟩ | ⟨paging, -, hChanged⟩
  · rw [hSame]
  · rw [hChanged, SearchType.kind_repage]

@[simp]
theorem streams_repaged : (state.repaged search).streams = search.streams := by
  rcases state.repaged_cases search with ⟨-, hSame⟩ | ⟨paging, -, hChanged⟩
  · rw [hSame]
  · rw [hChanged, SearchType.streams_repage]

/-- The change that a state holds for a search type is found by its id, which stays. -/
theorem repaged_repaged : state.repaged (state.repaged search) = state.repaged search := by
  rcases state.repaged_cases search with ⟨-, hSame⟩ | ⟨paging, hPaging, hChanged⟩
  · rw [hSame, hSame]
  · have hAgain : state.paging? (search.repage paging).id = some paging := by
      rw [SearchType.id_repage, hPaging]
    rw [hChanged, repaged, hAgain, Option.elim_some, SearchType.repage_repage]

end RunState

/-! ### Changing a query -/

namespace Query

variable (state : RunState) (query : Query)

/-- All that a state does to a query. -/
theorem applyState_eq :
    query.applyState state =
      { query with
        timeRange :=
          ((state.effectiveOverride? query.id).bind Override.timeRange).getD query.timeRange
        text := ((state.effectiveOverride? query.id).bind Override.query).getD query.text
        override := (state.effectiveOverride? query.id).or query.override
        searchTypes := query.searchTypes.map state.repaged } := by
  unfold applyState
  cases state.effectiveOverride? query.id <;> rfl

theorem filter_applyState : (query.applyState state).filter = query.filter := by
  rw [applyState_eq]

/-- What a state changes about search types is their paging, not their streams. -/
theorem streams_applyState :
    (query.applyState state).searchTypes.map SearchType.streams =
      query.searchTypes.map SearchType.streams := by
  rw [applyState_eq, List.map_map]
  exact List.map_congr_left fun search _ => state.streams_repaged search

/-- The filter tree takes no part in what a state does. -/
theorem applyState_withFilter (filter : Option Filter) :
    (query.withFilter filter).applyState state = (query.applyState state).withFilter filter := by
  rw [applyState_eq, applyState_eq]
  rfl

theorem applyState_applyState :
    (query.applyState state).applyState state = query.applyState state := by
  have hRepaged : state.repaged ∘ state.repaged = state.repaged := by
    funext search
    exact state.repaged_repaged search
  have hSet {α : Type} (set : Option α) (value : α) :
      set.getD (set.getD value) = set.getD value := by
    cases set <;> rfl
  have hRecorded (chosen : Option Override) :
      chosen.or (chosen.or query.override) = chosen.or query.override := by
    cases chosen <;> rfl
  -- the id is that of the query before, so the second time the same override is chosen
  simp only [applyState_eq, List.map_map, hRepaged, hSet, hRecorded]

theorem applyState_restrictTo (streams : NameSet) :
    (query.restrictTo streams).applyState state = (query.applyState state).restrictTo streams := by
  unfold restrictTo
  rw [filter_applyState]
  cases Filter.anyStreamOf streams.toList with
  | none => rfl
  | some restriction => exact applyState_withFilter state query _

/-- A change of a query that does not look at its filter tree can be made before expanding or
after. -/
theorem expandCategories_edit (edit : Query → Query) {query : Query}
    (hFilter : (edit query).filter = query.filter)
    (hWith : ∀ filter, (edit query).withFilter filter = edit (query.withFilter filter))
    (directory : Directory) :
    (edit query).expandCategories directory =
      (do return edit (← query.expandCategories directory)) := by
  unfold expandCategories
  rw [hFilter]
  cases query.filter with
  | none => rfl
  | some filter =>
    have hEdit : (fun expanded => pure ((edit query).withFilter expanded)) =
        fun expanded => (pure (edit (query.withFilter expanded)) : Consult Query) := by
      funext expanded
      rw [hWith]
    exact (congrArg (filter.expand directory >>= ·) hEdit).trans
      (Consult.bind_pure_bind_pure _ _ _).symm

theorem applyState_expandCategories (directory : Directory) :
    (query.applyState state).expandCategories directory =
      (do return (← query.expandCategories directory).applyState state) :=
  expandCategories_edit (applyState state) (filter_applyState state query)
    (fun filter => (applyState_withFilter state query filter).symm) directory

/-- The time range and the text are those of the override that takes effect, as far as it sets them,
and that override is recorded.  The search types stay in their order, each with the change of paging
that the state holds for it, if any: its limit and offset, or its page and page size, are those that
the change asks for.  Nothing else changes; nothing at all without an override and
without changes of paging; and overrides for single queries make no difference as soon as the
override for all of them sets something. -/
theorem applyState_exact :
    ∃ chosen, state.Overrides query.id chosen ∧
      (query.applyState state).timeRange =
        (chosen.bind Override.timeRange).getD query.timeRange ∧
      (query.applyState state).text = (chosen.bind Override.query).getD query.text ∧
      (query.applyState state).override = chosen.or query.override ∧
      List.Forall₂
        (fun search applied => applied.id = search.id ∧ applied.kind = search.kind ∧
          ∃ entry, state.Repages search.id entry ∧ applied = entry.elim search search.repage ∧
            ∀ paging, entry = some paging → search.Repaged paging applied)
        query.searchTypes (query.applyState state).searchTypes ∧
      (query.applyState state).id = query.id ∧
      (query.applyState state).filter = query.filter ∧
      (query.applyState state).searchFilters = query.searchFilters ∧
      (chosen = none → (∀ search ∈ query.searchTypes, state.Repages search.id none) →
        query.applyState state = query) ∧
      (state.global.Sets → ∀ queries,
        query.applyState { state with queries } = query.applyState state) := by
  have hEntry (search : SearchType) : ∃ entry, state.Repages search.id entry ∧
      state.repaged search = entry.elim search search.repage ∧
      ∀ paging, entry = some paging → search.Repaged paging (state.repaged search) := by
    refine ⟨_, state.repages_paging? search.id, rfl, fun paging hPaging => ?_⟩
    rw [RunState.repaged, hPaging]
    exact search.repaged_repage paging
  refine ⟨state.effectiveOverride? query.id, state.overrides_effectiveOverride? query.id, ?_⟩
  rw [applyState_eq]
  refine ⟨rfl, rfl, rfl, ?_, rfl, rfl, rfl, fun hNone hEntries => ?_, fun hSets queries => ?_⟩
  · rw [List.forall₂_map_right_iff, List.forall₂_same]
    intro search _
    exact ⟨state.id_repaged search, state.kind_repaged search, hEntry search⟩
  · have hSame : query.searchTypes.map state.repaged = query.searchTypes := by
      refine (List.map_congr_left fun search hSearch => ?_).trans (List.map_id _)
      rw [RunState.repaged, (hEntries search hSearch).paging?_eq_none]
      rfl
    rw [hNone, hSame]
    rfl
  · have hRepaged : RunState.repaged { state with queries } = state.repaged := rfl
    have hOverride : RunState.effectiveOverride? { state with queries } query.id =
        some state.global := by
      have hOther : (RunState.global { state with queries }).Sets := hSets
      exact RunState.effectiveOverride?_eq_global hOther query.id
    rw [applyState_eq, hRepaged, hOverride, RunState.effectiveOverride?_eq_global hSets]

/-- The override for all queries sets a time range, which hides the text that the query's own
override sets, and brings an offset along for a list of events, with a limit of zero that asks for
nothing. -/
theorem applyState_exact_of_event_list :
    let search : SearchType := { id := "alerts", detail := .events { perPage := some 20 } }
    let query : Query :=
      { id := "q", timeRange := .relative 60, text := ⟨"error"⟩, filter := none, searchFilters := []
        searchTypes := [search], override := none }
    let paging : PagingOverride := { offset := some 45, limit := some 0 }
    let state : RunState :=
      { global := { timeRange := some (.relative 0), searchTypes := .ofList [("alerts", paging)] }
        queries := .ofList [("q", { query := some ⟨"warning"⟩ })] }
    (query.applyState state).timeRange = .relative 0 ∧ (query.applyState state).text = ⟨"error"⟩ ∧
      (query.applyState state).override = some state.global ∧
      ∃ changed, (query.applyState state).searchTypes = [changed] ∧
        search.Repaged paging changed ∧
        changed.detail = .events { page := some 3, perPage := some 20 } := by
  intro search query paging state
  have hOwn : state.searchTypes.get? "alerts" = none := rfl
  have hNested : state.global.searchTypes.get? "alerts" = some paging := rfl
  obtain ⟨chosen, hChosen, hRange, hText, hRecorded, hSearchTypes, -⟩ :=
    applyState_exact state query
  obtain rfl : chosen = some state.global := by
    have hSets : state.global.Sets := .inl (Option.some_ne_none _)
    cases hChosen with
    | global => rfl
    | own hUnset => exact absurd hSets hUnset
    | none hUnset => exact absurd hSets hUnset
  obtain ⟨changed, others, ⟨-, -, entry, hEntry, -, hChanged⟩, hOthers, hAll⟩ :=
    List.forall₂_cons_left_iff.mp hSearchTypes
  obtain rfl : others = [] := List.forall₂_nil_left_iff.mp hOthers
  obtain rfl : entry = some paging := by
    cases hEntry with
    | own hOther => exact nomatch hOwn.symm.trans hOther
    | nested _ hOther => exact hOther.symm.trans hNested
    | none _ hOther => exact nomatch hNested.symm.trans hOther
  refine ⟨hRange, hText, hRecorded, changed, hAll, hChanged paging rfl, ?_⟩
  obtain rfl : search.repage paging = changed := (List.cons.inj hAll).1
  decide

/-- A state applied again changes nothing more, whatever offsets and limits it asks for.  Applying a
state and expanding categories can be exchanged, with the same questions to the directory and the
same failure; so can applying a state and restricting the query to streams. -/
theorem applyState_idempotent_and_independent :
    (query.applyState state).applyState state = query.applyState state ∧
      (∀ directory, (query.applyState state).expandCategories directory =
        (do return (← query.expandCategories directory).applyState state)) ∧
      ∀ streams, (query.applyState state).restrictTo streams =
        (query.restrictTo streams).applyState state :=
  ⟨applyState_applyState state query, applyState_expandCategories state query,
    fun streams => (applyState_restrictTo state query streams).symm⟩

end Query

end LogSearch
