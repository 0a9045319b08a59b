import LogSearch.Proofs.Parameters
import LogSearch.Proofs.Planning
import LogSearch.Proofs.Questions

/-!
# Why planning fails

Five things can be wrong with a query, and planning looks for them in a fixed
order: a parameter of its text has no value, the directory does not answer, its
time range does not resolve, a search filter would have to be loaded, or a page of
events starts beyond the largest offset.  `Planner.defects` lists them in this
order, each in terms of the declared query and the state of the run.

There is one lemma for each stage of planning, which says how the stage fails and
takes for granted that the stages before have passed.  `plan_fails_by_first_defect`
puts them together: a plan fails with the first defect of the first defective query.
All other failures that a stage knows of cannot occur, since the expansion of
categories leaves none and the default registry serves every kind.
-/

namespace LogSearch

/-! ### Stages of a plan -/

/-- The time range does not resolve, and is reported as such. -/
def TimeRange.Unresolved (range : TimeRange) (now : Instant) (error : SearchError) : Prop :=
  ∃ reason, error = .window reason ∧ range.resolve now = .error (.window reason)

theorem TimeRange.exists_window_of_resolve {now : Instant} {range : TimeRange}
    {error : SearchError} (h : range.resolve now = .error error) :
    ∃ reason, error = .window reason := by
  have hLift {α : Type} {result : Except WindowError α} (hResult : lift result = .error error) :
      ∃ reason, error = .window reason := by
    cases result with
    | ok value => contradiction
    | error reason => exact ⟨reason, (Except.error.inj hResult).symm⟩
  have hStart {stop : Instant} {seconds : Nat} (hResult : startBefore stop seconds = .error error) :
      ∃ reason, error = .window reason := by
    unfold startBefore at hResult
    split at hResult
    · contradiction
    · exact ⟨_, (Except.error.inj hResult).symm⟩
  unfold resolve at h
  split at h
  · contradiction
  · simp only [bind_eq_error, pure_ne_error, and_false, exists_false, or_false] at h
    rcases h with hWide | ⟨_, -, hFirst⟩
    · exact hLift hWide
    · exact hStart hFirst
  · contradiction
  · rcases bind_eq_error.mp h with hKeyword | ⟨keyword, -, hWindow⟩
    · exact hLift hKeyword
    · cases keyword with
      | today => simp at hWindow
      | yesterday =>
        simp only [bind_eq_error, pure_ne_error, and_false, exists_false, or_false] at hWindow
        exact hStart hWindow
      | last seconds =>
        simp only [bind_eq_error, pure_ne_error, and_false, exists_false, or_false] at hWindow
        exact hStart hWindow

theorem TimeRange.resolve_eq_error_iff {now : Instant} {range : TimeRange} {error : SearchError} :
    range.resolve now = .error error ↔ range.Unresolved now error := by
  constructor
  · intro h
    obtain ⟨reason, rfl⟩ := exists_window_of_resolve h
    exact ⟨reason, rfl, h⟩
  · rintro ⟨reason, rfl, h⟩
    exact h

/-- An operation with a single defect. -/
theorem failsBy_defect {α : Type} {outcome : Attempt α} {defect : SearchError → Prop}
    (h : ∀ error, outcome = .error error ↔ defect error) :
    FailsBy outcome (fun defect error => defect error) [defect] :=
  failsBy_singleton h

/-- The search filter is stored elsewhere and would have to be loaded. -/
def SearchFilter.Unloaded (filter : SearchFilter) (error : SearchError) : Prop :=
  ∃ id negated, filter = .stored id negated false ∧ error = .unloadedFilter id

theorem BoolQuery.addSearchFilter_eq_error_iff {query : BoolQuery} {filter : SearchFilter}
    {error : SearchError} :
    query.addSearchFilter filter = .error error ↔ filter.Unloaded error := by
  unfold SearchFilter.Unloaded
  cases filter with
  | inline title description text negated disabled =>
    cases disabled <;> cases negated <;> simp [addSearchFilter]
  | stored id negated disabled =>
    cases disabled <;> simp [addSearchFilter, eq_comm]

theorem BoolQuery.addSearchFilters_failsBy (query : BoolQuery) (filters : List SearchFilter) :
    FailsBy (filters.foldlM addSearchFilter query) SearchFilter.Unloaded filters := by
  induction filters generalizing query with
  | nil => exact failsBy_pure query
  | cons first rest ih =>
    rw [List.foldlM_cons]
    exact (failsBy_singleton fun _ => addSearchFilter_eq_error_iff).bind fun next _ => ih next

/-- A filter tree without categories has a clause, so that a context fails for two reasons only. -/
theorem QueryContext.ofQuery_failsBy (layout : IndexLayout) (now : Instant) {query : Query}
    (hExpanded : ∀ filter, query.filter = some filter → ∀ name, ¬ name ∈ filter.categories) :
    FailsBy (ofQuery layout now query) (fun defect error => defect error)
      [query.timeRange.Unresolved now,
        FirstFailure SearchFilter.Unloaded query.searchFilters] := by
  refine (failsBy_defect fun _ => TimeRange.resolve_eq_error_iff).bind fun window _ =>
    failsBy_defect fun error => ?_
  cases hFilter : query.filter with
  | none =>
    simp only [bind_eq_error, pure_ne_error, and_false, exists_false, or_false,
      BoolQuery.addSearchFilters_failsBy _ _ error, reduceCtorEq, false_or, Except.ok.injEq,
      exists_eq_left']
  | some filter =>
    obtain ⟨clause, hClause⟩ := Filter.toClause_succeeds layout (hExpanded filter hFilter)
    simp only [bind_eq_error, pure_ne_error, and_false, exists_false, or_false,
      BoolQuery.addSearchFilters_failsBy _ _ error, hClause, Except.map, reduceCtorEq, false_or,
      Except.ok.injEq, exists_eq_left']

/-- The search type is an event list whose page starts beyond the largest offset. -/
def SearchType.OutOfReach (search : SearchType) (error : SearchError) : Prop :=
  ∃ list page, search.detail = .events list ∧ list.page = some page ∧
    maxUnsigned32 < (page.toNat - 1) * list.pageSize.toNat ∧
    error = .invalid (.pageOutOfReach page list.pageSize search.id)

theorem EventList.pageStart_eq_error_iff {page perPage : UInt32} {id : String}
    {error : SearchError} :
    pageStart page perPage id = .error error ↔
      maxUnsigned32 < (page.toNat - 1) * perPage.toNat ∧
        error = .invalid (.pageOutOfReach page perPage id) := by
  simp only [pageStart]
  split
  · next hReach => simp [Nat.not_lt.mpr hReach]
  · next hBeyond => simp [Nat.not_le.mp hBeyond, eq_comm]

theorem SearchType.request_eq_error_iff {context : QueryContext} {search : SearchType}
    {error : SearchError} : search.request context = .error error ↔ search.OutOfReach error := by
  unfold request OutOfReach
  cases search.detail with
  | messages list => simp
  | pivot table => simp
  | events list =>
    cases hPage : list.page with
    | none => simp [EventList.request, hPage]
    | some page =>
      simp only [EventList.request, hPage, bind_eq_error, pure_ne_error, and_false, exists_false,
        or_false, EventList.pageStart_eq_error_iff]
      simp [hPage]

/-- The default registry has a handler for every kind, which takes the search types of that kind. -/
theorem Registry.default_request (context : QueryContext) (search : SearchType) :
    Registry.default.request context search = search.request context := by
  have hHandler : Registry.default.handlerFor search = .ok ⟨search.kind⟩ := by
    cases hKind : search.kind <;> simp only [handlerFor, hKind] <;> rfl
  calc Registry.default.request context search
      = (Handler.mk search.kind).request context search := by
        rw [Registry.request, hHandler]
        rfl
    _ = search.request context := Handler.request_of_kind rfl context

/-! ### Defects of a query -/

namespace Planner

/-- What can be wrong with a query, in the order in which it is looked for: a parameter of its text
has no value, a question about its categories is not answered, its time range does not resolve, a
search filter would have to be loaded, or a page of events that is to be run is out of reach. -/
def defects (directory : Directory) (now : Instant) (state : RunState) (query : Query) :
    List (SearchError → Prop) :=
  [(query.applyState state).text.Unbound state.parameters,
    FirstFailure (Question.Fails directory) (query.expandCategories directory).asked,
    (query.applyState state).timeRange.Unresolved now,
    FirstFailure SearchFilter.Unloaded query.searchFilters,
    FirstFailure SearchType.OutOfReach
      ((query.applyState state).searchTypes.filter fun search =>
        state.global.keepsSearchType search.id)]

variable {layout : IndexLayout} {directory : Directory} {now : Instant} {state : RunState}

/-- A query becomes the query as it is run unless one of the first two defects stops it. -/
theorem effectiveQuery_failsBy (query : Query) :
    FailsBy (effectiveQuery directory state query).outcome (fun defect error => defect error)
      [(query.applyState state).text.Unbound state.parameters,
        FirstFailure (Question.Fails directory) (query.expandCategories directory).asked] := by
  rw [effectiveQuery, Consult.outcome_bind]
  refine (failsBy_defect fun _ => QueryText.bind_eq_error_iff).bind fun text _ =>
    failsBy_defect fun error => ?_
  -- the questions are those that the declared filter tree gives rise to
  have hSame : ((query.applyState state).withText text).filter = query.filter :=
    Query.filter_applyState state query
  rw [Query.relays_expandCategories _ error, Query.asked_expandCategories, hSame,
    ← Query.asked_expandCategories]

/-- No category is left in the filter tree of the query as it is run. -/
theorem not_mem_categories_effective {query effective : Query}
    (h : (effectiveQuery directory state query).outcome = .ok effective) :
    ∀ filter, effective.filter = some filter → ∀ name, ¬ name ∈ filter.categories := by
  obtain ⟨text, left, -, rfl, hLeft⟩ := effectiveQuery_cases h
  rintro filter rfl name
  rcases hLeft with ⟨-, hNone⟩ | ⟨declared, -, hExpand⟩
  · contradiction
  · exact Filter.not_mem_categories_of_expand hExpand

theorem planRequest_eq_error_iff {context : QueryContext} {queryId : String}
    {search : SearchType} {error : SearchError} :
    Planner.planRequest { layout } context queryId search = .error error ↔
      search.OutOfReach error := by
  simp only [planRequest, bind_eq_error, pure_ne_error, and_false, exists_false, or_false,
    Registry.default_request, SearchType.request_eq_error_iff]

/-- The query as it is run becomes requests unless one of the last three defects stops it. -/
theorem planEffective_failsBy {query effective : Query}
    (h : (effectiveQuery directory state query).outcome = .ok effective) :
    FailsBy (Planner.planEffective { layout } now state effective)
      (fun defect error => defect error)
      [(query.applyState state).timeRange.Unresolved now,
        FirstFailure SearchFilter.Unloaded query.searchFilters,
        FirstFailure SearchType.OutOfReach
          ((query.applyState state).searchTypes.filter fun search =>
            state.global.keepsSearchType search.id)] := by
  have hContext := QueryContext.ofQuery_failsBy layout now (not_mem_categories_effective h)
  obtain ⟨text, left, -, rfl, -⟩ := effectiveQuery_cases h
  have hFilters : (query.applyState state).searchFilters = query.searchFilters := by
    rw [Query.applyState_eq]
  rw [← hFilters]
  refine hContext.bind fun context _ => FailsBy.bind_pure (failsBy_defect fun error => ?_)
  exact (failsBy_mapM error).trans
    (firstFailure_congr fun _ _ _ => planRequest_eq_error_iff)

theorem planQuery_failsBy (query : Query) :
    FailsBy (Planner.planQuery { layout } directory now state query).outcome
      (fun defect error => defect error) (defects directory now state query) := by
  rw [planQuery, Consult.outcome_bind]
  exact (effectiveQuery_failsBy query).bind fun effective hEffective =>
    planEffective_failsBy hEffective

/-- The failures that planning can end with. -/
inductive Reported : SearchError → Prop
  | unbound (name : String) : Reported (.unboundParameter name)
  | lookup (reason : String) : Reported (.lookupFailed reason)
  | check (reason : String) : Reported (.checkFailed reason)
  | window (reason : WindowError) : Reported (.window reason)
  | unloaded (id : String) : Reported (.unloadedFilter id)
  | outOfReach (page perPage : UInt32) (id : String) :
      Reported (.invalid (.pageOutOfReach page perPage id))

theorem reported_of_defect {query : Query} {defect : SearchError → Prop} {error : SearchError}
    (hDefect : defect ∈ defects directory now state query) (hError : defect error) :
    Reported error := by
  simp only [defects, List.mem_cons, List.not_mem_nil, or_false] at hDefect
  rcases hDefect with rfl | rfl | rfl | rfl | rfl
  · obtain ⟨name, rfl, -⟩ := hError
    exact .unbound name
  · obtain ⟨question, -, hFails⟩ := hError.exists_mem
    cases hFails with
    | streamsOf h => exact .lookup _
    | mayRead h => exact .check _
  · obtain ⟨reason, rfl, -⟩ := hError
    exact .window reason
  · obtain ⟨filter, -, id, negated, -, rfl⟩ := hError.exists_mem
    exact .unloaded id
  · obtain ⟨search, -, list, page, -, -, -, rfl⟩ := hError.exists_mem
    exact .outOfReach page list.pageSize search.id

/-- With a handler for every kind, planning fails exactly if some query that is to be run is
defective, and then by the first defect of the first such query.  The other failures of the stages
do not occur: no category is left to be expanded, no kind is unserved, and no search type meets
the handler of another kind. -/
theorem plan_fails_by_first_defect (layout : IndexLayout) (directory : Directory) (now : Instant)
    (state : RunState) (queries : List Query) :
    let kept := queries.filter fun query => state.global.keepsQuery query.id
    let outcome := (Planner.plan { layout } directory now state queries).outcome
    ((∃ error, outcome = .error error) ↔
      ∃ query ∈ kept, ∃ defect ∈ defects directory now state query, ∃ error, defect error) ∧
    (∀ error, outcome = .error error ↔
      FirstFailure (fun query =>
        FirstFailure (fun defect error => defect error) (defects directory now state query))
        kept error) ∧
    ∀ error, outcome = .error error → (∀ name, error ≠ .unexpandedCategory name) ∧
      (∀ kind, error ≠ .unsupported kind) ∧
      ∀ expected actual, error ≠ .wrongKind expected actual := by
  intro kept outcome
  have hFirst (error : SearchError) : outcome = .error error ↔
      FirstFailure (fun query =>
        FirstFailure (fun defect error => defect error) (defects directory now state query))
        kept error := by
    show (Planner.planAll _ _ _ _ kept).outcome = .error error ↔ _
    exact (planAll_failsBy kept error).trans
      (firstFailure_congr fun query _ => planQuery_failsBy query)
  refine ⟨?_, hFirst, fun error hError => ?_⟩
  · simp only [hFirst, exists_firstFailure_iff]
  · obtain ⟨query, -, hQuery⟩ := ((hFirst error).mp hError).exists_mem
    obtain ⟨defect, hDefect, hOccurs⟩ := hQuery.exists_mem
    cases reported_of_defect hDefect hOccurs <;> simp

end Planner

end LogSearch
