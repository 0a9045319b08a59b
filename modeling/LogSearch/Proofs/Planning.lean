import LogSearch.Plan
import LogSearch.Proofs.Expansion
import LogSearch.Proofs.Overrides
import LogSearch.Proofs.Refinement

/-!
# What a plan is made of

A plan that succeeds has one part for each query that is to be run, and such a
part has one request for each search type that is to be run.  The lemmas here
take it apart, and say of each stage what it keeps: the query as it is run has
the declared filter tree, expanded, and search types restricted to the declared
streams; a request has the conditions of its query and further ones, which name
no streams but those of the search type and those of the filter tree.
-/

namespace LogSearch

namespace Query

theorem mem_namedStreams {stream : String} {query : Query} :
    stream ∈ query.namedStreams ↔
      stream ∈ query.filterStreams ∨ ∃ search ∈ query.searchTypes, stream ∈ search.streams := by
  unfold namedStreams
  -- the fold starts from the streams of the filter tree, which have to vary for the induction
  generalize query.filterStreams = names
  induction query.searchTypes generalizing names with
  | nil => simp
  | cons first rest ih =>
    rw [List.foldl_cons, ih, NameSet.mem_union, List.exists_mem_cons_iff, or_assoc]

/-- The filter tree becomes what expansion leaves of it, and nothing else changes. -/
theorem expandCategories_eq_ok {directory : Directory} {query expanded : Query}
    (h : (query.expandCategories directory).outcome = .ok expanded) :
    ∃ left, expanded = query.withFilter left ∧
      ((query.filter = none ∧ left = none) ∨
        ∃ filter, query.filter = some filter ∧ (filter.expand directory).outcome = .ok left) := by
  unfold expandCategories at h
  split at h
  · next hNone =>
    rw [Consult.outcome_pure, Except.ok.injEq] at h
    refine ⟨none, ?_, .inl ⟨hNone, rfl⟩⟩
    rw [← h, ← hNone]
    rfl
  · next filter hSome =>
    simp only [Consult.bind_eq_ok, Consult.outcome_pure, Except.ok.injEq] at h
    obtain ⟨left, hLeft, hSame⟩ := h
    exact ⟨left, hSame.symm, .inr ⟨filter, hSome, hLeft⟩⟩

/-- The expanded tree has what holds of all that expansion leaves of the declared one. -/
theorem expandCategories_keeps {directory : Directory} {query expanded : Query}
    {P : Filter → Prop} (h : (query.expandCategories directory).outcome = .ok expanded)
    (hLeft : ∀ filter left, query.filter = some filter →
      (filter.expand directory).outcome = .ok (some left) → P left) :
    ∃ tree?, expanded = query.withFilter tree? ∧ ∀ tree, tree? = some tree → P tree := by
  obtain ⟨tree?, hExpanded, ⟨-, rfl⟩ | ⟨filter, hFilter, hTree⟩⟩ := expandCategories_eq_ok h
  · exact ⟨none, hExpanded, by simp⟩
  · refine ⟨tree?, hExpanded, ?_⟩
    rintro tree rfl
    exact hLeft filter tree hFilter hTree

end Query

/-! ### Requests -/

namespace SearchType

/-- Conditions are those of a query with more clauses, which name no streams but those of a search
type and those of the query's filter tree. -/
def Refines (context : QueryContext) (search : SearchType) (refined : BoolQuery) : Prop :=
  ∃ must filter, refined = context.base.query.extend must filter ∧
    ∀ clause ∈ must ++ filter, ∀ fields stream, stream ∈ Clause.valuesIn fields clause →
      stream ∈ search.streams ∨ stream ∈ context.streams

variable {context : QueryContext} {search : SearchType}

theorem mem_effectiveStreams {stream : String}
    (h : stream ∈ EventList.effectiveStreams context search) :
    stream ∈ search.streams ∨ stream ∈ context.streams := by
  unfold EventList.effectiveStreams at h
  split at h
  · exact Or.inr h
  · exact Or.inl h

/-- What a search type adds names its own streams, or those of the query for events without any. -/
theorem streams_of_added {clause : Json} {fields : List String} {stream : String}
    (hClause : clause ∈ search.addedMust context ++ search.addedFilter context)
    (hStream : stream ∈ Clause.valuesIn fields clause) :
    stream ∈ search.streams ∨ stream ∈ context.streams := by
  unfold addedMust addedFilter at hClause
  cases hDetail : search.detail with
  | messages list =>
    rw [hDetail] at hClause
    exact Or.inl (Clause.mem_of_mem_valuesIn_scope hClause hStream)
  | events list =>
    rw [hDetail] at hClause
    rcases List.mem_append.mp hClause with hScope | hText
    · exact mem_effectiveStreams (Clause.mem_of_mem_valuesIn_scope hScope hStream)
    · -- clauses for query texts name no streams at all
      obtain ⟨text, -, rfl⟩ := List.mem_map.mp hText
      rw [Clause.valuesIn_queryString] at hStream
      exact absurd hStream List.not_mem_nil
  | pivot pivot =>
    rw [hDetail] at hClause
    exact Or.inl (Clause.mem_of_mem_valuesIn_scope hClause hStream)

/-- The request of a search type refines the conditions of its query. -/
theorem request_refines {body : SearchBody} (h : search.request context = .ok body) :
    search.Refines context body.query :=
  ⟨_, _, request_query_eq h, fun _ hClause _ _ hStream => streams_of_added hClause hStream⟩

end SearchType

/-- A request that a registry makes is the request of the search type. -/
theorem Registry.request_eq_ok {registry : Registry} {context : QueryContext}
    {search : SearchType} {body : SearchBody} (h : registry.request context search = .ok body) :
    search.request context = .ok body := by
  simp only [Registry.request, Handler.request, bind_eq_ok] at h
  obtain ⟨handler, -, -, -, hRequest⟩ := h
  exact hRequest

/-! ### Stages of a plan -/

namespace Planner

variable {planner : Planner} {directory : Directory} {now : Instant} {state : RunState}

theorem planAll_eq_ok_iff {queries : List Query} {plans : List PlannedQuery} :
    (planner.planAll directory now state queries).outcome = .ok plans ↔
      List.Forall₂
        (fun query planned => (planner.planQuery directory now state query).outcome = .ok planned)
        queries plans := by
  induction queries generalizing plans with
  | nil =>
    rw [planAll, Consult.outcome_pure, List.forall₂_nil_left_iff, Except.ok.injEq]
    exact eq_comm
  | cons first rest ih =>
    simp only [planAll, Consult.bind_eq_ok, Consult.outcome_pure, Except.ok.injEq, ih]
    constructor
    · rintro ⟨planned, hFirst, others, hRest, rfl⟩
      exact .cons hFirst hRest
    · intro hAll
      cases hAll with
      | cons hFirst hRest => exact ⟨_, hFirst, _, hRest, rfl⟩

theorem planAll_failsBy (queries : List Query) :
    FailsBy (planner.planAll directory now state queries).outcome
      (fun query error => (planner.planQuery directory now state query).outcome = .error error)
      queries := by
  induction queries with
  | nil => exact failsBy_pure _
  | cons first rest ih =>
    rw [planAll, Consult.outcome_bind]
    refine (failsBy_singleton fun _ => Iff.rfl).bind fun planned _ => ?_
    rw [Consult.outcome_bind]
    exact ih.bind_pure

/-- The query as it is run is the query with the state applied, with its parameters bound and with
what expansion leaves of the declared filter tree. -/
theorem effectiveQuery_cases {query effective : Query}
    (h : (effectiveQuery directory state query).outcome = .ok effective) :
    ∃ text left, (query.applyState state).text.bind state.parameters = .ok text ∧
      effective = ((query.applyState state).withText text).withFilter left ∧
      ((query.filter = none ∧ left = none) ∨
        ∃ filter, query.filter = some filter ∧ (filter.expand directory).outcome = .ok left) := by
  simp only [effectiveQuery, Consult.bind_eq_ok] at h
  obtain ⟨text, hText, hExpand⟩ := h
  -- neither the state nor the parameters touch the filter tree
  have hDeclared : ((query.applyState state).withText text).filter = query.filter :=
    Query.filter_applyState state query
  obtain ⟨left, hSame, hLeft⟩ := Query.expandCategories_eq_ok hExpand
  rw [hDeclared] at hLeft
  exact ⟨text, left, hText, hSame, hLeft⟩

/-- The query as it is run has the search types of the query with the state applied, and what
expansion leaves of the declared filter tree. -/
theorem effectiveQuery_eq_ok {query effective : Query}
    (h : (effectiveQuery directory state query).outcome = .ok effective) :
    effective.searchTypes = (query.applyState state).searchTypes ∧
      ((query.filter = none ∧ effective.filter = none) ∨
        ∃ filter, query.filter = some filter ∧
          (filter.expand directory).outcome = .ok effective.filter) := by
  obtain ⟨text, left, -, rfl, hFilter⟩ := effectiveQuery_cases h
  exact ⟨rfl, hFilter⟩

theorem planRequest_eq_ok {context : QueryContext} {queryId : String} {search : SearchType}
    {request : PlannedRequest} (h : planner.planRequest context queryId search = .ok request) :
    search.request context = .ok request.body := by
  simp only [planRequest, bind_eq_ok, pure_eq_ok] at h
  obtain ⟨body, hBody, rfl⟩ := h
  exact Registry.request_eq_ok hBody

theorem planEffective_eq_ok {query : Query} {planned : PlannedQuery}
    (h : planner.planEffective now state query = .ok planned) :
    QueryContext.ofQuery planner.layout now query = .ok planned.context ∧
      ∀ request ∈ planned.requests, ∃ search ∈ query.searchTypes,
        search.request planned.context = .ok request.body := by
  simp only [planEffective, bind_eq_ok, pure_eq_ok, mapM_eq_ok_iff] at h
  obtain ⟨context, hContext, requests, hRequests, rfl⟩ := h
  refine ⟨hContext, fun request hRequest => ?_⟩
  obtain ⟨search, hSearch, hPlanned⟩ := exists_mem_of_forall₂ hRequests hRequest
  exact ⟨search, List.mem_of_mem_filter hSearch, planRequest_eq_ok hPlanned⟩

theorem planQuery_eq_ok {query : Query} {planned : PlannedQuery}
    (h : (planner.planQuery directory now state query).outcome = .ok planned) :
    ∃ effective, (effectiveQuery directory state query).outcome = .ok effective ∧
      QueryContext.ofQuery planner.layout now effective = .ok planned.context ∧
      ∀ request ∈ planned.requests, ∃ search ∈ effective.searchTypes,
        search.request planned.context = .ok request.body := by
  simp only [planQuery, Consult.bind_eq_ok] at h
  obtain ⟨effective, hEffective, hPlanned⟩ := h
  exact ⟨effective, hEffective, planEffective_eq_ok hPlanned⟩

end Planner

end LogSearch
