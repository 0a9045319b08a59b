import LogSearch.Proofs.Execution

/-!
# Running some of the queries

A state can name the queries and the search types to run.  These names stand in
the override for all queries, which also decides what is overridden and is
recorded with the queries that are run.  Yet they only select: of the requests
that are made without them they leave some out, in place and unchanged.

The proof compares two runs of the planner, under a state that keeps everything
and under the same state with names put in.  Both run the same query up to the
override that is recorded (`Query.applyState_keeping`), of which no request takes
note (`Planner.planEffective_keeping`).
-/

namespace LogSearch

/-! ### The same state with other names to keep -/

/-- The override with other queries and search types to run. -/
def Override.keeping (override : Override) (queries searchTypes : NameSet) : Override :=
  { override with keepQueries := queries, keepSearchTypes := searchTypes }

/-- The state with other queries and search types to run. -/
def RunState.keeping (state : RunState) (queries searchTypes : NameSet) : RunState :=
  state.withGlobal (state.global.keeping queries searchTypes)

namespace RunState

variable (state : RunState) (queries searchTypes : NameSet)

theorem keeping_keeping (otherQueries otherSearchTypes : NameSet) :
    (state.keeping otherQueries otherSearchTypes).keeping queries searchTypes =
      state.keeping queries searchTypes :=
  rfl

theorem paging?_keeping (searchTypeId : String) :
    (state.keeping queries searchTypes).paging? searchTypeId = state.paging? searchTypeId :=
  rfl

/-- What is to be kept does not count as set, so it does not make an override take effect. -/
theorem sets_keeping_iff : (state.keeping queries searchTypes).global.Sets ↔ state.global.Sets :=
  Iff.rfl

theorem effectiveOverride?_keeping_of_sets (h : state.global.Sets) (queryId : String) :
    (state.keeping queries searchTypes).effectiveOverride? queryId =
      some (state.global.keeping queries searchTypes) :=
  effectiveOverride?_eq_global ((state.sets_keeping_iff queries searchTypes).mpr h) queryId

theorem effectiveOverride?_keeping_of_not_sets (h : ¬ state.global.Sets) (queryId : String) :
    (state.keeping queries searchTypes).effectiveOverride? queryId =
      state.effectiveOverride? queryId := by
  have hEmpty : state.global.isEmpty = true := Override.isEmpty_eq_true_iff.mpr h
  have hEmptyKeeping : (state.keeping queries searchTypes).global.isEmpty = true := hEmpty
  rw [effectiveOverride?, effectiveOverride?, hEmpty, hEmptyKeeping]
  rfl

end RunState

/-! ### Queries that differ in the recorded override -/

/-- The query with another override recorded. -/
def Query.recording (query : Query) (override : Option Override) : Query :=
  { query with override }

/-- What is to be kept changes nothing about a query but the override that is recorded. -/
theorem Query.applyState_keeping (state : RunState) (queries searchTypes : NameSet)
    (query : Query) :
    ∃ recorded, query.applyState (state.keeping queries searchTypes) =
      (query.applyState state).recording recorded := by
  have hRepaged : (state.keeping queries searchTypes).repaged = state.repaged := rfl
  rw [applyState_eq, applyState_eq, hRepaged]
  by_cases hSets : state.global.Sets
  · rw [state.effectiveOverride?_keeping_of_sets queries searchTypes hSets,
      RunState.effectiveOverride?_eq_global hSets]
    exact ⟨some (state.global.keeping queries searchTypes), rfl⟩
  · rw [state.effectiveOverride?_keeping_of_not_sets queries searchTypes hSets]
    exact ⟨_, rfl⟩

/-! ### Two runs of the planner -/

namespace Planner

section TwoRuns

variable {planner : Planner} {directory : Directory} {now : Instant} {state : RunState}
  (queries searchTypes : NameSet)

theorem effectiveQuery_keeping {query effective : Query}
    (h : (effectiveQuery directory state query).outcome = .ok effective) :
    ∃ recorded, (effectiveQuery directory (state.keeping queries searchTypes) query).outcome =
      .ok (effective.recording recorded) := by
  obtain ⟨recorded, hApplied⟩ := query.applyState_keeping state queries searchTypes
  refine ⟨recorded, ?_⟩
  simp only [effectiveQuery, Consult.bind_eq_ok] at h ⊢
  obtain ⟨text, hText, hExpand⟩ := h
  rw [hApplied]
  refine ⟨text, hText, ?_⟩
  -- neither the text that is bound nor the filter tree that is expanded is where an override is
  -- recorded, so recording it can wait until the end
  have hRecording : ((query.applyState state).recording recorded).withText text =
      ((query.applyState state).withText text).recording recorded := rfl
  rw [hRecording, Query.expandCategories_edit (Query.recording · recorded) rfl (fun _ => rfl),
    Consult.bind_eq_ok]
  exact ⟨effective, hExpand, rfl⟩

/-- No request takes note of the recorded override, and each is made for its search type alone, so
those that are left out do not matter to the others. -/
theorem planEffective_keeping {query : Query} {planned : PlannedQuery}
    (h : planner.planEffective now (state.keeping ∅ ∅) query = .ok planned)
    (recorded : Option Override) :
    ∃ kept, planner.planEffective now (state.keeping queries searchTypes)
        (query.recording recorded) = .ok kept ∧
      kept.requests = planned.requests.filter fun request =>
        searchTypes.keeps request.searchTypeId := by
  simp only [planEffective, bind_eq_ok, pure_eq_ok, mapM_eq_ok_iff] at h ⊢
  obtain ⟨context, hContext, requests, hRequests, rfl⟩ := h
  have hAll : (query.searchTypes.filter fun search =>
      (state.keeping ∅ ∅).global.keepsSearchType search.id) = query.searchTypes :=
    List.filter_eq_self.mpr fun _ _ => NameSet.keeps_iff.mpr (.inl rfl)
  rw [hAll] at hRequests
  have hSelected := List.rel_filter
    (p := fun search => searchTypes.keeps search.id)
    (q := fun request => searchTypes.keeps request.searchTypeId)
    (fun search request hRequest => by simp only [(ids_of_planRequest hRequest).2]) hRequests
  exact ⟨_, ⟨context, hContext, _, hSelected, rfl⟩, rfl⟩

theorem planQuery_keeping {query : Query} {planned : PlannedQuery}
    (h : (planner.planQuery directory now (state.keeping ∅ ∅) query).outcome = .ok planned) :
    ∃ kept, (planner.planQuery directory now (state.keeping queries searchTypes) query).outcome =
        .ok kept ∧
      kept.requests = planned.requests.filter fun request =>
        searchTypes.keeps request.searchTypeId := by
  simp only [planQuery, Consult.bind_eq_ok] at h ⊢
  obtain ⟨effective, hEffective, hPlanned⟩ := h
  obtain ⟨recorded, hRecorded⟩ := effectiveQuery_keeping queries searchTypes hEffective
  rw [RunState.keeping_keeping] at hRecorded
  obtain ⟨kept, hKept, hRequests⟩ := planEffective_keeping queries searchTypes hPlanned recorded
  exact ⟨kept, ⟨_, hRecorded, hKept⟩, hRequests⟩

/-- A query that is not to be run takes all its requests with it, since these have its id. -/
theorem filter_requests {query : Query} {planned : PlannedQuery}
    (h : (planner.planQuery directory now state query).outcome = .ok planned) :
    (planned.requests.filter fun request =>
        queries.keeps request.queryId && searchTypes.keeps request.searchTypeId) =
      if queries.keeps query.id then
        planned.requests.filter fun request => searchTypes.keeps request.searchTypeId
      else [] := by
  obtain ⟨-, -, -, hOwner⟩ := planQuery_requests h
  split
  · next hKeeps =>
    refine List.filter_congr fun request hRequest => ?_
    rw [hOwner request hRequest, hKeeps, Bool.true_and]
  · next hKeeps =>
    rw [List.filter_eq_nil_iff]
    intro request hRequest
    simp [hOwner request hRequest, hKeeps]

theorem planAll_keeping {list : List Query} {plans : List PlannedQuery}
    (h : List.Forall₂ (fun query planned =>
      (planner.planQuery directory now (state.keeping ∅ ∅) query).outcome = .ok planned)
      list plans) :
    ∃ kept, List.Forall₂ (fun query planned =>
        (planner.planQuery directory now (state.keeping queries searchTypes) query).outcome =
          .ok planned)
        (list.filter fun query => queries.keeps query.id) kept ∧
      kept.flatMap PlannedQuery.requests =
        (plans.flatMap PlannedQuery.requests).filter fun request =>
          queries.keeps request.queryId && searchTypes.keeps request.searchTypeId := by
  induction h with
  | nil => exact ⟨[], .nil, rfl⟩
  | @cons query planned list plans hFirst hRest ih =>
    obtain ⟨others, hOthers, hOtherRequests⟩ := ih
    rw [List.flatMap_cons, List.filter_append, ← hOtherRequests,
      filter_requests queries searchTypes hFirst, List.filter_cons]
    by_cases hKeeps : queries.keeps query.id = true
    · obtain ⟨kept, hKept, hRequests⟩ := planQuery_keeping queries searchTypes hFirst
      rw [if_pos hKeeps, if_pos hKeeps, ← hRequests]
      exact ⟨kept :: others, .cons hKept hOthers, List.flatMap_cons⟩
    -- the second run skips the query, and the first loses all that it asked for it
    · rw [if_neg hKeeps, if_neg hKeeps, List.nil_append]
      exact ⟨others, hOthers, rfl⟩

end TwoRuns

/-- If a plan succeeds under a state that keeps everything, it succeeds with any names put in.  Its
requests are those of the first plan that are for a query and for a search type to keep, in the same
order and with the same bodies.  Which override takes effect stays the same, and so does the paging
of search types. -/
theorem plan_keeping (planner : Planner) (directory : Directory) (now : Instant)
    (state : RunState) (queries searchTypes : NameSet) {list : List Query}
    {plans : List PlannedQuery}
    (h : (planner.plan directory now (state.keeping ∅ ∅) list).outcome = .ok plans) :
    (∃ kept,
      (planner.plan directory now (state.keeping queries searchTypes) list).outcome = .ok kept ∧
        kept.flatMap PlannedQuery.requests =
          (plans.flatMap PlannedQuery.requests).filter fun request =>
            queries.keeps request.queryId && searchTypes.keeps request.searchTypeId) ∧
      ∀ id,
        (state.global.Sets → (state.keeping queries searchTypes).effectiveOverride? id =
          some (state.global.keeping queries searchTypes)) ∧
        (¬ state.global.Sets → (state.keeping queries searchTypes).effectiveOverride? id =
          state.effectiveOverride? id) ∧
        (state.keeping queries searchTypes).paging? id = state.paging? id := by
  have hAll : (list.filter fun query => (state.keeping ∅ ∅).global.keepsQuery query.id) = list :=
    List.filter_eq_self.mpr fun _ _ => NameSet.keeps_iff.mpr (.inl rfl)
  rw [plan, planAll_eq_ok_iff, hAll] at h
  obtain ⟨kept, hKept, hRequests⟩ := planAll_keeping queries searchTypes h
  refine ⟨⟨kept, planAll_eq_ok_iff.mpr hKept, hRequests⟩, fun id => ⟨?_, ?_, ?_⟩⟩
  · exact fun hSets => state.effectiveOverride?_keeping_of_sets queries searchTypes hSets id
  · exact fun hSets => state.effectiveOverride?_keeping_of_not_sets queries searchTypes hSets id
  · exact state.paging?_keeping queries searchTypes id

/-- Of two queries with two search types each, one search type of one query is kept.  The override
for all queries sets a time range and goes on to take effect. -/
theorem plan_keeping_of_two_queries :
    let catalog : Catalog := { categories := .ofList [("web", ["front"])], allowAll := true }
    let query (id : String) : Query :=
      { id, timeRange := .relative 0, text := .empty, filter := some (.category "web")
        searchFilters := []
        searchTypes := [{ id := "first", detail := .messages {} },
          { id := "second", detail := .messages {} }]
        override := none }
    let state : RunState := { global := { timeRange := some (.relative 60) } }
    let ids (plans : List PlannedQuery) :=
      (plans.flatMap PlannedQuery.requests).map fun request =>
        (request.queryId, request.searchTypeId)
    let run (state : RunState) :=
      (Planner.plan {} catalog.directory .epoch state [query "a", query "b"]).outcome
    ∃ plans kept, run (state.keeping ∅ ∅) = .ok plans ∧
      run (state.keeping (.singleton "b") (.singleton "second")) = .ok kept ∧
      ids plans = [("a", "first"), ("a", "second"), ("b", "first"), ("b", "second")] ∧
      ids kept = [("b", "second")] ∧
      kept.flatMap PlannedQuery.requests = (plans.flatMap PlannedQuery.requests).drop 3 := by
  intro catalog query state ids run
  obtain ⟨plans, hPlans, hIds, hLast⟩ : ∃ plans, run (state.keeping ∅ ∅) = .ok plans ∧
      ids plans = [("a", "first"), ("a", "second"), ("b", "first"), ("b", "second")] ∧
      ((plans.flatMap PlannedQuery.requests).filter fun request =>
        (NameSet.singleton "b").keeps request.queryId &&
          (NameSet.singleton "second").keeps request.searchTypeId) =
        (plans.flatMap PlannedQuery.requests).drop 3 :=
    ⟨_, by with_unfolding_all rfl, by with_unfolding_all rfl, by with_unfolding_all rfl⟩
  obtain ⟨⟨kept, hKept, hRequests⟩, -⟩ :=
    plan_keeping {} catalog.directory .epoch state (.singleton "b") (.singleton "second") hPlans
  refine ⟨plans, kept, hPlans, hKept, hIds, ?_, hRequests.trans hLast⟩
  show (kept.flatMap PlannedQuery.requests).map _ = _
  rw [hRequests, hLast, List.map_drop]
  exact congrArg (List.drop 3) hIds

end Planner

end LogSearch
