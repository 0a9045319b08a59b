import Mathlib.Data.List.Nodup
import LogSearch.Execution
import LogSearch.Proofs.Planning

/-!
# What execution returns

The requests of all queries go out as one list, and what comes back is told apart
by places in that list alone.  Two queries may have the same id, and so may two
search types of different queries; within one query the ids of search types are
distinct, so that no result takes the place of another.

Every request is submitted, whatever comes of the others (`submitted_submitAll`).
Collecting then goes through the answers in the order of the plan.  It fails by the
first request that fails (`resultsOfAll_failsBy`), and otherwise the results of a
query stand where the query stands in the plan (`resultsOfAll_eq_ok`).
-/

namespace LogSearch

/-! ### What a plan asks for -/

/-- The ids of the search types of a query that are to be run. -/
def Query.idsToRun (state : RunState) (query : Query) : List String :=
  (query.searchTypes.map SearchType.id).filter state.global.keepsSearchType

/-- Where keys are distinct, looking for the key of an element finds the element. -/
theorem find?_key_of_mem {α : Type} {key : α → String} {items : List α} {item : α}
    (hDistinct : (items.map key).Nodup) (hItem : item ∈ items) :
    (items.find? fun other => key other == key item) = some item := by
  cases hFound : items.find? fun other => key other == key item with
  | none =>
    have hNe := List.find?_eq_none.mp hFound item hItem
    simp at hNe
  | some found =>
    have hSame : key found = key item := by simpa using List.find?_some hFound
    rw [List.inj_on_of_nodup_map hDistinct (List.mem_of_find?_eq_some hFound) hItem hSame]

theorem Query.searchType?_of_mem {query : Query} {search : SearchType}
    (hDistinct : (query.searchTypes.map SearchType.id).Nodup)
    (hSearch : search ∈ query.searchTypes) : query.searchType? search.id = some search :=
  find?_key_of_mem hDistinct hSearch

namespace Planner

variable {planner : Planner} {directory : Directory} {now : Instant} {state : RunState}

theorem ids_of_planRequest {context : QueryContext} {queryId : String} {search : SearchType}
    {request : PlannedRequest} (h : planner.planRequest context queryId search = .ok request) :
    request.queryId = queryId ∧ request.searchTypeId = search.id := by
  simp only [planRequest, bind_eq_ok, pure_eq_ok] at h
  obtain ⟨body, -, rfl⟩ := h
  exact ⟨rfl, rfl⟩

theorem planEffective_requests {query : Query} {planned : PlannedQuery}
    (h : planner.planEffective now state query = .ok planned) :
    planned.query = query ∧
      planned.requests.map PlannedRequest.searchTypeId = query.idsToRun state ∧
      ∀ request ∈ planned.requests, request.queryId = query.id := by
  simp only [planEffective, bind_eq_ok, pure_eq_ok, mapM_eq_ok_iff] at h
  obtain ⟨context, -, requests, hRequests, rfl⟩ := h
  refine ⟨rfl, ?_, fun request hRequest => ?_⟩
  · have hSame : List.Forall₂ (fun search request => request.searchTypeId = search.id)
        (query.searchTypes.filter fun search => state.global.keepsSearchType search.id) requests :=
      hRequests.imp fun _ _ hRequest => (ids_of_planRequest hRequest).2
    have hEqual : requests.map PlannedRequest.searchTypeId =
        (query.searchTypes.filter fun search => state.global.keepsSearchType search.id).map
          SearchType.id := by
      rw [← List.forall₂_eq_eq_eq, List.forall₂_map_left_iff, List.forall₂_map_right_iff]
      exact hSame.flip
    rw [hEqual, Query.idsToRun, List.filter_map]
    rfl
  · obtain ⟨search, -, hPlanned⟩ := exists_mem_of_forall₂ hRequests hRequest
    exact (ids_of_planRequest hPlanned).1

/-- A planned query keeps the id of the query and has its search types with their paging changed;
it has one request for each that is to be run, in their order. -/
theorem planQuery_requests {query : Query} {planned : PlannedQuery}
    (h : (planner.planQuery directory now state query).outcome = .ok planned) :
    planned.query.id = query.id ∧
      planned.query.searchTypes = query.searchTypes.map state.repaged ∧
      planned.requests.map PlannedRequest.searchTypeId = query.idsToRun state ∧
      ∀ request ∈ planned.requests, request.queryId = query.id := by
  simp only [planQuery, Consult.bind_eq_ok] at h
  obtain ⟨effective, hEffective, hPlanned⟩ := h
  obtain ⟨rfl, hRequests, hOwner⟩ := planEffective_requests hPlanned
  obtain ⟨text, left, -, hQuery, -⟩ := effectiveQuery_cases hEffective
  have hId : planned.query.id = query.id := by
    rw [hQuery, Query.applyState_eq]
    rfl
  have hSearchTypes : planned.query.searchTypes = query.searchTypes.map state.repaged := by
    rw [hQuery, Query.applyState_eq]
    rfl
  refine ⟨hId, hSearchTypes, ?_, fun request hRequest => (hOwner request hRequest).trans hId⟩
  rw [hRequests, Query.idsToRun, hSearchTypes, state.map_id_repaged, Query.idsToRun]

/-! ### Requests that fail -/

/-- The requests of planned queries in the order of the plan, each with the query it is for. -/
def submissions (plans : List PlannedQuery) : List (PlannedQuery × PlannedRequest) :=
  plans.flatMap fun planned => planned.requests.map fun request => (planned, request)

@[simp]
theorem map_snd_submissions (plans : List PlannedQuery) :
    (submissions plans).map Prod.snd = plans.flatMap PlannedQuery.requests := by
  rw [submissions, List.map_flatMap]
  refine List.flatMap_congr fun planned _ => ?_
  rw [List.map_map]
  exact List.map_id _

/-- A request at a place fails: the backend does not answer it, or its answer does not fit. -/
inductive RequestFails (planner : Planner) (backend : Backend) :
    (PlannedQuery × PlannedRequest) × Nat → SearchError → Prop
  | unanswered {planned : PlannedQuery} {request : PlannedRequest} {place : Nat} {reason : String}
      (h : backend place request = .error reason) :
      RequestFails planner backend ((planned, request), place) (.backendFailed reason)
  | misfit {planned : PlannedQuery} {request : PlannedRequest} {place : Nat} {response : Response}
      {error : SearchError} (hAnswer : backend place request = .ok response)
      (h : planner.extract planned request.searchTypeId response = .error error) :
      RequestFails planner backend ((planned, request), place) error

/-- The result of a request at a place. -/
def answer (planner : Planner) (backend : Backend) (planned : PlannedQuery)
    (request : PlannedRequest) (place : Nat) : Attempt SearchResult := do
  let response ← (backend place request).mapError .backendFailed
  planner.extract planned request.searchTypeId response

section Answers

variable {backend : Backend} {planned : PlannedQuery} {request : PlannedRequest} {place : Nat}

theorem answer_eq_error_iff {error : SearchError} :
    planner.answer backend planned request place = .error error ↔
      planner.RequestFails backend ((planned, request), place) error := by
  unfold answer
  cases hAnswer : backend place request with
  | error reason =>
    constructor
    · rintro ⟨⟩
      exact .unanswered hAnswer
    · intro hFails
      cases hFails with
      | unanswered h =>
        rw [hAnswer] at h
        rw [← Except.error.inj h]
        rfl
      | misfit hOther h =>
        rw [hAnswer] at hOther
        contradiction
  | ok response =>
    constructor
    · intro h
      exact .misfit hAnswer h
    · intro hFails
      cases hFails with
      | unanswered h =>
        rw [hAnswer] at h
        contradiction
      | misfit hOther h =>
        rw [hAnswer] at hOther
        rw [← Except.ok.inj hOther] at h
        exact h

theorem answer_eq_ok {result : SearchResult}
    (h : planner.answer backend planned request place = .ok result) :
    ∃ response, backend place request = .ok response ∧
      planner.extract planned request.searchTypeId response = .ok result := by
  obtain ⟨response, hResponse, hResult⟩ := bind_eq_ok.mp h
  exact ⟨response, mapError_eq_ok.mp hResponse, hResult⟩

end Answers

/-! ### What is submitted -/

section Submissions

variable {backend : Backend}

/-- Each request is submitted once, whatever the answers are. -/
@[simp]
theorem submitted_submitAll (place : Nat) (requests : List PlannedRequest) :
    (backend.submitAll place requests).submitted = requests := by
  induction requests generalizing place with
  | nil => rfl
  | cons request rest ih => simp [Backend.submitAll, Backend.submit, ih]

@[simp]
theorem length_outcome_submitAll (place : Nat) (requests : List PlannedRequest) :
    (backend.submitAll place requests).outcome.length = requests.length := by
  induction requests generalizing place with
  | nil => rfl
  | cons request rest ih => simp [Backend.submitAll, ih]

/-- Requests that follow others are answered at the places behind these. -/
theorem outcome_submitAll_append (place : Nat) (requests later : List PlannedRequest) :
    (backend.submitAll place (requests ++ later)).outcome =
      (backend.submitAll place requests).outcome ++
        (backend.submitAll (place + requests.length) later).outcome := by
  induction requests generalizing place with
  | nil => rfl
  | cons request rest ih =>
    simp only [List.cons_append, Backend.submitAll, Submission.outcome_bind,
      Submission.outcome_pure, ih, List.length_cons]
    rw [Nat.add_assoc, Nat.add_comm 1]

@[simp]
theorem submitted_submitPlan (plans : List PlannedQuery) :
    (planner.submitPlan backend plans).submitted = plans.flatMap PlannedQuery.requests := by
  simp [submitPlan]

/-- The results of requests of one query whose places in the plan start at a given one. -/
def resultsOf (planner : Planner) (backend : Backend) (planned : PlannedQuery) (place : Nat)
    (results : Keyed SearchResult) (requests : List PlannedRequest) :
    Attempt (Keyed SearchResult) :=
  planner.collectRequests planned results
    (requests.zip (backend.submitAll place requests).outcome)

/-- The results of planned queries whose requests' places in the plan start at a given one. -/
def resultsOfAll (planner : Planner) (backend : Backend) (place : Nat)
    (plans : List PlannedQuery) : Attempt (List QueryResult) :=
  planner.collect plans (backend.submitAll place (plans.flatMap PlannedQuery.requests)).outcome

theorem outcome_submitPlan (plans : List PlannedQuery) :
    (planner.submitPlan backend plans).outcome = planner.resultsOfAll backend 0 plans :=
  rfl

/-- The first request is answered, and its result is put into the table before the others'. -/
theorem resultsOf_cons {planned : PlannedQuery} {place : Nat} {results : Keyed SearchResult}
    {request : PlannedRequest} {rest : List PlannedRequest} :
    planner.resultsOf backend planned place results (request :: rest) =
      planner.answer backend planned request place >>= fun result =>
        planner.resultsOf backend planned (place + 1)
          (results.insert request.searchTypeId result) rest := by
  rw [answer, bind_assoc]
  rfl

/-- Each query takes the answers to its own requests off the front of the list. -/
theorem resultsOfAll_cons {place : Nat} {planned : PlannedQuery} {rest : List PlannedQuery} :
    planner.resultsOfAll backend place (planned :: rest) = do
      let searchTypes ← planner.resultsOf backend planned place ∅ planned.requests
      let others ← planner.resultsOfAll backend (place + planned.requests.length) rest
      return ⟨planned.query.id, searchTypes⟩ :: others := by
  have hLength : (backend.submitAll place planned.requests).outcome.length =
      planned.requests.length := length_outcome_submitAll place planned.requests
  have hOwn (later : List (Except String Response)) :
      planned.requests.zip ((backend.submitAll place planned.requests).outcome ++ later) =
        planned.requests.zip (backend.submitAll place planned.requests).outcome := by
    have hBehind : (planned.requests ++ []).zip
        ((backend.submitAll place planned.requests).outcome ++ later) =
          planned.requests.zip (backend.submitAll place planned.requests).outcome ++
            [].zip later := List.zip_append hLength.symm
    simpa using hBehind
  rw [resultsOfAll, List.flatMap_cons, outcome_submitAll_append, collect,
    List.drop_left' hLength, hOwn]
  rfl

end Submissions

variable {backend : Backend}

theorem resultsOf_failsBy (planned : PlannedQuery) (place : Nat)
    (results : Keyed SearchResult) (requests : List PlannedRequest) :
    FailsBy (planner.resultsOf backend planned place results requests)
      (planner.RequestFails backend)
      ((requests.map fun request => (planned, request)).zipIdx place) := by
  induction requests generalizing place results with
  | nil => exact failsBy_pure results
  | cons request rest ih =>
    rw [resultsOf_cons]
    exact (failsBy_singleton fun _ => answer_eq_error_iff).bind fun result _ => ih (place + 1) _

theorem resultsOfAll_failsBy (place : Nat) (plans : List PlannedQuery) :
    FailsBy (planner.resultsOfAll backend place plans) (planner.RequestFails backend)
      ((submissions plans).zipIdx place) := by
  induction plans generalizing place with
  | nil => exact failsBy_pure []
  | cons planned rest ih =>
    have hPlaces : (submissions (planned :: rest)).zipIdx place =
        (planned.requests.map fun request => (planned, request)).zipIdx place ++
          (submissions rest).zipIdx (place + planned.requests.length) := by
      rw [submissions, List.flatMap_cons, List.zipIdx_append, List.length_map]
      rfl
    rw [hPlaces, resultsOfAll_cons]
    exact (resultsOf_failsBy planned place ∅ planned.requests).bind fun _ _ =>
      (ih _).bind_pure

/-! ### Results that stand -/

/-- Each request puts its result under the id of its search type, where the later ones, which are
for other search types, leave it. -/
theorem resultsOf_eq_ok {planned : PlannedQuery} {place : Nat}
    {results table : Keyed SearchResult} {requests : List PlannedRequest}
    (hDistinct : (requests.map PlannedRequest.searchTypeId).Nodup)
    (h : planner.resultsOf backend planned place results requests = .ok table) :
    (∀ id, id ∉ requests.map PlannedRequest.searchTypeId → table.get? id = results.get? id) ∧
      ∀ request answered, (request, answered) ∈ requests.zipIdx place →
        ∃ result, planner.answer backend planned request answered = .ok result ∧
          table.get? request.searchTypeId = some result := by
  induction requests generalizing place results with
  | nil =>
    rw [← Except.ok.inj h]
    exact ⟨fun _ _ => rfl, fun _ _ hMem => nomatch hMem⟩
  | cons first rest ih =>
    obtain ⟨hFirst, hRest⟩ := List.nodup_cons.mp hDistinct
    rw [resultsOf_cons] at h
    obtain ⟨result, hAnswer, hOthers⟩ := bind_eq_ok.mp h
    obtain ⟨hKept, hAnswers⟩ := ih hRest hOthers
    constructor
    · intro id hId
      rw [List.map_cons, List.mem_cons, not_or] at hId
      obtain ⟨hNe, hLater⟩ := hId
      rw [hKept id hLater, Keyed.get?_insert_of_ne hNe]
    · intro request answered hMem
      rcases List.mem_cons.mp hMem with hSame | hLater
      · obtain ⟨rfl, rfl⟩ := Prod.mk.inj hSame
        exact ⟨result, hAnswer, by rw [hKept _ hFirst, Keyed.get?_insert_self]⟩
      · exact hAnswers request answered hLater

/-- The results of a query stand at its place in the plan, and its requests come after those of the
queries before. -/
theorem resultsOfAll_eq_ok {place : Nat} {plans : List PlannedQuery} {results : List QueryResult}
    (h : planner.resultsOfAll backend place plans = .ok results) :
    results.length = plans.length ∧ ∀ k planned, plans[k]? = some planned →
      ∃ table, results[k]? = some ⟨planned.query.id, table⟩ ∧
        planner.resultsOf backend planned
          (place + ((plans.take k).flatMap PlannedQuery.requests).length) ∅ planned.requests =
            .ok table := by
  induction plans generalizing place results with
  | nil =>
    rw [← Except.ok.inj h]
    exact ⟨rfl, fun k planned hPlanned => by simp at hPlanned⟩
  | cons first rest ih =>
    simp only [resultsOfAll_cons, bind_eq_ok, pure_eq_ok] at h
    obtain ⟨table, hTable, others, hOthers, rfl⟩ := h
    obtain ⟨hLength, hEach⟩ := ih hOthers
    refine ⟨by simp [hLength], fun k planned hPlanned => ?_⟩
    cases k with
    | zero =>
      obtain rfl : first = planned := by simpa using hPlanned
      exact ⟨table, rfl, by simpa using hTable⟩
    | succ k =>
      obtain ⟨later, hLater, hRequests⟩ := hEach k planned (by simpa using hPlanned)
      refine ⟨later, by simpa using hLater, ?_⟩
      rw [List.take_succ_cons, List.flatMap_cons, List.length_append, ← Nat.add_assoc]
      exact hRequests

/-! ### Execution -/

/-- A result has, for every search type of a query that is to be run, what the answer to its request
says, and nothing else.  The requests stand at successive places of the plan. -/
structure Answers (planner : Planner) (backend : Backend) (state : RunState) (query : Query)
    (requests : List PlannedRequest) (place : Nat) (result : QueryResult) : Prop where
  queryId : result.queryId = query.id
  ids : ∀ id, (∃ found, result.searchTypes.get? id = some found) ↔ id ∈ query.idsToRun state
  routed : ∀ request answered, (request, answered) ∈ requests.zipIdx place →
    ∃ search ∈ query.searchTypes, search.id = request.searchTypeId ∧
      ∃ response found, backend answered request = .ok response ∧
        planner.registry.result (state.repaged search) response = .ok found ∧
        result.searchTypes.get? search.id = some found

theorem extract_of_mem {planned : PlannedQuery} {query : Query} {search : SearchType}
    {response : Response} (hDistinct : (query.searchTypes.map SearchType.id).Nodup)
    (hPlanned : planned.query.searchTypes = query.searchTypes.map state.repaged)
    (hSearch : search ∈ query.searchTypes) :
    planner.extract planned search.id response =
      planner.registry.result (state.repaged search) response := by
  have hIds : (planned.query.searchTypes.map SearchType.id).Nodup := by
    rw [hPlanned, state.map_id_repaged]
    exact hDistinct
  have hMem : state.repaged search ∈ planned.query.searchTypes := by
    rw [hPlanned]
    exact List.mem_map_of_mem hSearch
  have hFound := Query.searchType?_of_mem hIds hMem
  rw [state.id_repaged] at hFound
  rw [extract, hFound]

theorem answers_of_resultsOf {query : Query} {planned : PlannedQuery} {place : Nat}
    {table : Keyed SearchResult} (hDistinct : (query.searchTypes.map SearchType.id).Nodup)
    (hPlan : (planner.planQuery directory now state query).outcome = .ok planned)
    (h : planner.resultsOf backend planned place ∅ planned.requests = .ok table) :
    planner.Answers backend state query planned.requests place ⟨planned.query.id, table⟩ := by
  obtain ⟨hId, hSearchTypes, hRequests, -⟩ := planQuery_requests hPlan
  have hToRun : (planned.requests.map PlannedRequest.searchTypeId).Nodup := by
    rw [hRequests]
    exact hDistinct.filter _
  obtain ⟨hNoOthers, hAnswers⟩ := resultsOf_eq_ok hToRun h
  refine ⟨hId, fun id => ⟨?_, ?_⟩, fun request answered hMem => ?_⟩
  · rintro ⟨found, hFound⟩
    by_contra hNotRun
    rw [← hRequests] at hNotRun
    have hNone : table.get? id = none := hNoOthers id hNotRun
    rw [hNone] at hFound
    contradiction
  · intro hRun
    rw [← hRequests, ← List.zipIdx_map_fst place planned.requests] at hRun
    simp only [List.mem_map, Prod.exists] at hRun
    obtain ⟨request, ⟨_, answered, hMem, rfl⟩, rfl⟩ := hRun
    obtain ⟨result, -, hFound⟩ := hAnswers _ answered hMem
    exact ⟨result, hFound⟩
  · obtain ⟨result, hAnswer, hFound⟩ := hAnswers request answered hMem
    obtain ⟨response, hResponse, hExtract⟩ := answer_eq_ok hAnswer
    have hRun : request.searchTypeId ∈ query.idsToRun state := by
      rw [← hRequests]
      exact List.mem_map_of_mem (List.fst_mem_of_mem_zipIdx hMem)
    obtain ⟨search, hSearch, hSame⟩ := List.mem_map.mp (List.mem_of_mem_filter hRun)
    rw [← hSame, extract_of_mem hDistinct hSearchTypes hSearch] at hExtract
    rw [← hSame] at hFound
    exact ⟨search, hSearch, hSame, response, result, hResponse, hExtract, hFound⟩

/-- If some query that is to be run cannot be planned, the failure of the first such query is
reported and nothing is submitted.  Otherwise every request is submitted once, in the order of the
plan.  Execution fails then exactly by the first request that fails; else there is one result for
each query that is to be run, in their order, and the answer to a request is in the result of its
own query under the id of its own search type, wherever ids of queries are repeated. -/
theorem execute_all_or_nothing (planner : Planner) (directory : Directory) (now : Instant)
    (backend : Backend) (state : RunState) (queries : List Query)
    (hDistinct : ∀ query ∈ queries, (query.searchTypes.map SearchType.id).Nodup) :
    let kept := queries.filter fun query => state.global.keepsQuery query.id
    let plan := fun query => (planner.planQuery directory now state query).outcome
    let execution := (planner.execute directory now backend state queries).2
    ((∃ query ∈ kept, ∃ error, plan query = .error error) →
      ∃ error, FirstFailure (fun query error => plan query = .error error) kept error ∧
        execution = ⟨[], .error error⟩) ∧
    ((∀ query ∈ kept, ∀ error, plan query ≠ .error error) →
      ∃ plans, List.Forall₂ (fun query planned => plan query = .ok planned ∧
          planned.requests.map PlannedRequest.searchTypeId = query.idsToRun state ∧
          ∀ request ∈ planned.requests, request.queryId = query.id) kept plans ∧
        execution.submitted = (submissions plans).map Prod.snd ∧
        execution.submitted = plans.flatMap PlannedQuery.requests ∧
        (∀ error, execution.outcome = .error error ↔
          FirstFailure (planner.RequestFails backend) (submissions plans).zipIdx error) ∧
        ∀ results, execution.outcome = .ok results →
          results.length = kept.length ∧
          ∀ k query, kept[k]? = some query → ∃ planned result,
            plans[k]? = some planned ∧ results[k]? = some result ∧
              planner.Answers backend state query planned.requests
                ((plans.take k).flatMap PlannedQuery.requests).length result) := by
  intro kept plan execution
  have hPlan : FailsBy (planner.plan directory now state queries).outcome
      (fun query error => plan query = .error error) kept := planAll_failsBy kept
  constructor
  · intro hDefective
    obtain ⟨error, hFirst⟩ := exists_firstFailure_iff.mpr hDefective
    have hFailed := (hPlan error).mpr hFirst
    refine ⟨error, hFirst, ?_⟩
    simp only [execution, execute, hFailed]
    rfl
  · intro hPlanned
    obtain ⟨plans, hPlans⟩ :
        ∃ plans, (planner.plan directory now state queries).outcome = .ok plans := by
      rw [← forall_ne_error_iff]
      intro error hError
      obtain ⟨query, hQuery, hFails⟩ := ((hPlan error).mp hError).exists_mem
      exact hPlanned query hQuery error hFails
    have hExecution : execution = planner.submitPlan backend plans := by
      simp only [execution, execute, hPlans]
    have hEach : List.Forall₂ (fun query planned => plan query = .ok planned) kept plans :=
      planAll_eq_ok_iff.mp hPlans
    rw [hExecution, submitted_submitPlan, outcome_submitPlan]
    refine ⟨plans, ?_, (map_snd_submissions plans).symm, rfl, resultsOfAll_failsBy 0 plans, ?_⟩
    · refine hEach.imp fun query planned hQuery => ?_
      obtain ⟨-, -, hRequests, hOwner⟩ := planQuery_requests hQuery
      exact ⟨hQuery, hRequests, hOwner⟩
    · intro results hResults
      obtain ⟨hLength, hTables⟩ := resultsOfAll_eq_ok hResults
      refine ⟨hLength.trans hEach.length_eq.symm, fun k query hQuery => ?_⟩
      obtain ⟨planned, hThis, hPlannedQuery⟩ := exists_getElem?_of_forall₂ hEach hQuery
      obtain ⟨table, hResult, hTable⟩ := hTables k planned hThis
      rw [Nat.zero_add] at hTable
      have hOwn := hDistinct query (List.mem_of_mem_filter (List.mem_of_getElem? hQuery))
      exact ⟨planned, _, hThis, hResult, answers_of_resultsOf hOwn hPlannedQuery hTable⟩

/-- Two queries have the same id and ask for the same two lists of messages.  The backend tells the
requests apart by their places, and each of the four answers ends up where it belongs. -/
theorem execute_all_or_nothing_of_twins :
    let list (id : String) : SearchType := { id, detail := .messages {} }
    let twin : Query :=
      { id := "twin", timeRange := .default, text := .empty, filter := none, searchFilters := []
        searchTypes := [list "newest", list "oldest"], override := none }
    let backend : Backend := fun place _ => .ok { total := place }
    let total (result : QueryResult) (id : String) :=
      (result.searchTypes.get? id).map SearchResult.total
    ∃ results,
      (execute {} (Catalog.directory {}) .epoch backend {} [twin, twin]).2.outcome = .ok results ∧
        results.length = 2 ∧
        results.map (fun result => (result.queryId, total result "newest", total result "oldest")) =
          [("twin", some 0, some 1), ("twin", some 2, some 3)] ∧
        ∀ k < 2, ∃ result, results[k]? = some result ∧
          ∀ id, (∃ found, result.searchTypes.get? id = some found) ↔ id ∈ ["newest", "oldest"] := by
  intro list twin backend total
  have hDistinct : ∀ query ∈ [twin, twin], (query.searchTypes.map SearchType.id).Nodup := by
    have hTwin : (twin.searchTypes.map SearchType.id).Nodup := by decide
    simp [hTwin]
  obtain ⟨planned, hPlanned⟩ : ∃ planned,
      (planQuery {} (Catalog.directory {}) .epoch {} twin).outcome = .ok planned :=
    ⟨_, by with_unfolding_all rfl⟩
  obtain ⟨results, hResults, hTotals⟩ : ∃ results,
      (execute {} (Catalog.directory {}) .epoch backend {} [twin, twin]).2.outcome = .ok results ∧
        results.map (fun result => (result.queryId, total result "newest", total result "oldest")) =
          [("twin", some 0, some 1), ("twin", some 2, some 3)] :=
    ⟨_, by with_unfolding_all rfl, by decide +kernel⟩
  obtain ⟨plans, -, -, -, -, hEach⟩ :=
    (execute_all_or_nothing {} (Catalog.directory {}) .epoch backend {} [twin, twin] hDistinct).2
      (by simp [Override.keepsQuery, hPlanned])
  obtain ⟨hLength, hAnswers⟩ := hEach results hResults
  refine ⟨results, hResults, hLength, hTotals, fun k hPlace => ?_⟩
  have hTwin : [twin, twin][k]? = some twin := by
    rcases (by omega : k = 0 ∨ k = 1) with rfl | rfl <;> rfl
  obtain ⟨_, result, -, hResult, hAnswered⟩ := hAnswers k twin hTwin
  exact ⟨result, hResult, hAnswered.ids⟩

end Planner

end LogSearch
