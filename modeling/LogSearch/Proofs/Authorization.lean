import LogSearch.Proofs.Planning

/-!
# What a caller gets to see

Whether a caller may run a query is decided on the query as declared, before the
state of the run is applied and before categories are expanded.  Two questions
decide whether that is safe: whether the requests name streams that were not
checked, and whether they select documents that the declared filter tree
rejects.

The first is answered by `requests_name_checked_streams`: there are no such
streams.  The second is not so simple, since expansion drops conjuncts; what
holds is `requests_respect_remainder`.
-/

namespace LogSearch

/-- The streams that a request names, as the streams of messages or as those of the messages that an
event is about. -/
def SearchBody.namedStreams (layout : IndexLayout) (body : SearchBody) : List String :=
  body.query.valuesIn [layout.streamsField, EventList.sourceStreamsField]

namespace Planner

section Stages

variable {planner : Planner} {directory : Directory} {now : Instant} {state : RunState}
  {query effective : Query} {context : QueryContext}

/-- The streams of the expanded filter tree are declared, or granted for a declared category. -/
theorem mem_filterStreams_effective
    (h : (effectiveQuery directory state query).outcome = .ok effective) {stream : String}
    (hStream : stream ∈ effective.filterStreams) :
    stream ∈ query.filterStreams ∨
      ∃ category ∈ query.filterCategories, stream ∈ directory.granted category := by
  obtain ⟨-, ⟨-, hNone⟩ | ⟨filter, hFilter, hExpand⟩⟩ := effectiveQuery_eq_ok h
  · rw [Query.filterStreams, hNone] at hStream
    exact absurd hStream (NameSet.not_mem_empty stream)
  · cases hLeft : effective.filter with
    | none =>
      rw [Query.filterStreams, hLeft] at hStream
      exact absurd hStream (NameSet.not_mem_empty stream)
    | some expanded =>
      rw [Query.filterStreams, hLeft] at hStream
      rw [Query.filterStreams, Query.filterCategories, hFilter]
      exact ((Filter.expandsTo_of_expand hExpand).streamIds_iff stream).mp
        ⟨expanded, hLeft, hStream⟩

/-- A search type that is run has streams that are declared. -/
theorem mem_namedStreams_of_effective
    (h : (effectiveQuery directory state query).outcome = .ok effective) {search : SearchType}
    (hSearch : search ∈ effective.searchTypes) {stream : String}
    (hStream : stream ∈ search.streams) : stream ∈ query.namedStreams := by
  have hStreams : search.streams ∈ query.searchTypes.map SearchType.streams := by
    rw [← Query.streams_applyState state query, ← (effectiveQuery_eq_ok h).1]
    exact List.mem_map_of_mem hSearch
  obtain ⟨declared, hDeclared, hSame⟩ := List.mem_map.mp hStreams
  exact Query.mem_namedStreams.mpr (Or.inr ⟨declared, hDeclared, hSame ▸ hStream⟩)

/-- The base of a query's requests names the streams of its filter tree only. -/
theorem mem_filterStreams_of_base
    (h : QueryContext.ofQuery planner.layout now effective = .ok context) {fields : List String}
    {stream : String} (hStream : stream ∈ context.base.query.valuesIn fields) :
    stream ∈ effective.filterStreams := by
  obtain ⟨start, stop, clauses, -, hClauses, -, rfl⟩ := QueryContext.ofQuery_eq_ok_iff.mp h
  exact QueryContext.mem_filterStreams_of_conditions hClauses hStream

theorem streams_eq_of_context
    (h : QueryContext.ofQuery planner.layout now effective = .ok context) :
    context.streams = effective.filterStreams := by
  obtain ⟨start, stop, clauses, -, -, -, rfl⟩ := QueryContext.ofQuery_eq_ok_iff.mp h
  rfl

/-- A request selects no more documents than the base it refines. -/
theorem selects_base_of_refines {search : SearchType} {refined : BoolQuery} {document : Document}
    (h : QueryContext.ofQuery planner.layout now effective = .ok context)
    (hRefines : search.Refines context refined) (hSelects : refined.selects document = true) :
    context.base.query.selects document = true := by
  obtain ⟨must, filter, rfl, -⟩ := hRefines
  have hMust : context.base.query.must ≠ [] := by
    obtain ⟨start, stop, clauses, -, -, -, rfl⟩ := QueryContext.ofQuery_eq_ok_iff.mp h
    exact List.cons_ne_nil _ _
  exact ((BoolQuery.selects_extend_iff hMust).mp hSelects).1

/-- The base of a query's requests selects only documents that the expanded filter tree admits. -/
theorem holds_of_selects_base {document : Document}
    (h : QueryContext.ofQuery planner.layout now effective = .ok context)
    (hSelects : context.base.query.selects document = true) (inCategory : String → Bool)
    {expanded : Filter} (hExpanded : effective.filter = some expanded) :
    expanded.holds (document.reading planner.layout inCategory) = true := by
  obtain ⟨start, stop, clauses, -, hClauses, -, rfl⟩ := QueryContext.ofQuery_eq_ok_iff.mp h
  obtain ⟨-, -, hFilter, -⟩ := (QueryContext.selects_conditions inCategory hClauses).mp hSelects
  exact hFilter expanded hExpanded

end Stages

/-- Every stream that a request of a plan names is one that the declared query names, or was listed
for a category of the declared query and may be read. -/
theorem requests_name_checked_streams {planner : Planner} {directory : Directory} {now : Instant}
    {state : RunState} {queries : List Query} {plans : List PlannedQuery}
    (h : (planner.plan directory now state queries).outcome = .ok plans) :
    List.Forall₂
      (fun query planned => ∀ request ∈ planned.requests,
        ∀ stream ∈ request.body.namedStreams planner.layout,
          stream ∈ query.namedStreams ∨
            ∃ category ∈ query.filterCategories, ∃ streams,
              directory.streamsOf (.singleton category) = .ok streams ∧ stream ∈ streams ∧
                directory.mayRead stream = .ok true)
      (queries.filter fun query => state.global.keepsQuery query.id) plans := by
  refine (planAll_eq_ok_iff.mp h).imp fun query planned hPlanned => ?_
  intro request hRequest stream hStream
  obtain ⟨effective, hEffective, hContext, hRequests⟩ := planQuery_eq_ok hPlanned
  obtain ⟨search, hSearch, hBody⟩ := hRequests request hRequest
  obtain ⟨must, filter, hQuery, hAdded⟩ := SearchType.request_refines hBody
  -- a stream of the filter tree comes into a request in two ways: through the tree's clause, and
  -- through an event list that has no streams of its own
  have hTree (hFilter : stream ∈ effective.filterStreams) :
      stream ∈ query.namedStreams ∨
        ∃ category ∈ query.filterCategories, stream ∈ directory.granted category := by
    rcases mem_filterStreams_effective hEffective hFilter with hDeclared | hGranted
    · exact Or.inl (Query.mem_namedStreams.mpr (Or.inl hDeclared))
    · exact Or.inr hGranted
  have hNamed : stream ∈ query.namedStreams ∨
      ∃ category ∈ query.filterCategories, stream ∈ directory.granted category := by
    rw [SearchBody.namedStreams, hQuery, BoolQuery.mem_valuesIn_extend] at hStream
    rcases hStream with hBase | ⟨clause, hClause, hValue⟩
    · exact hTree (mem_filterStreams_of_base hContext hBase)
    · rcases hAdded clause hClause _ stream hValue with hOwn | hShared
      · exact Or.inl (mem_namedStreams_of_effective hEffective hSearch hOwn)
      · rw [streams_eq_of_context hContext] at hShared
        exact hTree hShared
  simpa only [Directory.mem_granted] using hNamed

/-- Two streams come from a category, of which one may be read, and a third one from an event list
that is restricted to it. -/
theorem requests_name_checked_streams_of_both_kinds :
    let catalog : Catalog :=
      { categories := .ofList [("web", ["front", "back"])], allowAll := false
        allowed := .singleton "front" }
    let query : Query :=
      { id := "q", timeRange := .relative 0, text := .empty, filter := some (.category "web")
        searchFilters := [], override := none
        searchTypes := [{ id := "list", detail := .messages {} },
          { id := "alerts", streams := .singleton "mail", detail := .events {} }] }
    ∃ planned, (Planner.plan {} catalog.directory .epoch {} [query]).outcome = .ok [planned] ∧
      (planned.requests.map fun request => request.body.namedStreams {}) =
        [["front"], ["front", "mail"]] ∧
      ∀ request ∈ planned.requests, ∀ stream ∈ request.body.namedStreams {},
        stream ∈ query.namedStreams ∨
          ∃ category ∈ query.filterCategories, ∃ streams,
            catalog.directory.streamsOf (.singleton category) = .ok streams ∧ stream ∈ streams ∧
              catalog.directory.mayRead stream = .ok true := by
  intro catalog query
  obtain ⟨planned, hPlan, hNamed⟩ : ∃ planned,
      (Planner.plan {} catalog.directory .epoch {} [query]).outcome = .ok [planned] ∧
        (planned.requests.map fun request => request.body.namedStreams {}) =
          [["front"], ["front", "mail"]] :=
    ⟨_, by with_unfolding_all rfl, by decide +kernel⟩
  have hAll := requests_name_checked_streams hPlan
  refine ⟨planned, hPlan, hNamed, ?_⟩
  cases hAll with
  | cons hFirst hRest => exact hFirst

/-- Unless all of the declared filter tree vanishes, the documents that a request of a plan selects
are admitted by what is left of the tree, and by the tree itself if every conjunction in it keeps
all its children or loses all of them. -/
theorem requests_respect_remainder {planner : Planner} {directory : Directory} {now : Instant}
    {state : RunState} {queries : List Query} {plans : List PlannedQuery}
    (h : (planner.plan directory now state queries).outcome = .ok plans) :
    List.Forall₂
      (fun query planned => ∀ filter, query.filter = some filter →
        filter.vanishes directory = false →
        ∀ request ∈ planned.requests, ∀ document : Document,
          Clause.holds document request.body.query.toJson = true →
            filter.remainderHolds directory
              (directory.reading (document.inStream planner.layout) document.matchesText) = true ∧
            (filter.LosesNoConjunct directory → filter.holds
              (directory.reading (document.inStream planner.layout) document.matchesText) = true))
      (queries.filter fun query => state.global.keepsQuery query.id) plans := by
  refine (planAll_eq_ok_iff.mp h).imp fun query planned hPlanned => ?_
  intro declared hDeclared hLeft request hRequest document hSelects
  obtain ⟨effective, hEffective, hContext, hRequests⟩ := planQuery_eq_ok hPlanned
  obtain ⟨search, hSearch, hBody⟩ := hRequests request hRequest
  have hBase := selects_base_of_refines hContext (SearchType.request_refines hBody) hSelects
  -- the expanded tree is a clause of every request, and says what remains of the declared one
  have hRemainder : declared.remainderHolds directory
      (directory.reading (document.inStream planner.layout) document.matchesText) = true := by
    obtain ⟨-, ⟨hNone, -⟩ | ⟨filter, hFilter, hExpand⟩⟩ := effectiveQuery_eq_ok hEffective
    · rw [hDeclared] at hNone
      contradiction
    · obtain rfl : filter = declared := Option.some.inj (hFilter.symm.trans hDeclared)
      have hExpands := Filter.expandsTo_of_expand hExpand
      cases hExpanded : effective.filter with
      | none =>
        rw [← hExpands.isNone_eq, hExpanded] at hLeft
        contradiction
      | some expanded =>
        rw [← hExpands.holds_eq _ _ expanded hExpanded]
        exact holds_of_selects_base hContext hBase _ hExpanded
  exact ⟨hRemainder, fun hKept => Filter.holds_of_remainderHolds hKept hLeft hRemainder⟩

/-- A conjunction that keeps all its children. -/
theorem requests_respect_remainder_of_readable :
    let catalog : Catalog :=
      { categories := .ofList [("web", ["front", "back"])], allowAll := false
        allowed := .singleton "front" }
    let filter : Filter := .and [.queryString "error", .or [.category "web", .category "mail"]]
    let query : Query :=
      { id := "q", timeRange := .relative 0, text := .empty, filter := some filter
        searchFilters := [], searchTypes := [{ id := "list", detail := .messages {} }]
        override := none }
    ∃ planned, (Planner.plan {} catalog.directory .epoch {} [query]).outcome = .ok [planned] ∧
      planned.requests.length = 1 ∧ ∀ request ∈ planned.requests, ∀ document : Document,
        Clause.holds document request.body.query.toJson = true →
          document.matchesText "error" = true ∧ "front" ∈ document.values "streams" := by
  intro catalog filter query
  obtain ⟨planned, hPlan, hOne⟩ : ∃ planned,
      (Planner.plan {} catalog.directory .epoch {} [query]).outcome = .ok [planned] ∧
        planned.requests.length = 1 :=
    ⟨_, by with_unfolding_all rfl, rfl⟩
  have hAll := requests_respect_remainder hPlan
  refine ⟨planned, hPlan, hOne, fun request hRequest document hSelects => ?_⟩
  have hKept : filter.LosesNoConjunct catalog.directory := by
    intro children hNode
    obtain rfl : children = [.queryString "error", .or [.category "web", .category "mail"]] := by
      simpa [filter, Filter.nodes, Filter.nodesOfAll] using hNode
    refine Or.inl fun child hChild => ?_
    rcases List.mem_pair.mp hChild with rfl | rfl <;> decide
  cases hAll with
  | cons hFirst hRest =>
    have hHolds :=
      (hFirst filter rfl (by decide) request hRequest document hSelects).2 hKept
    have hGranted : catalog.directory.granted "web" = ["front"] := by decide
    have hNone : catalog.directory.granted "mail" = [] := by decide
    simpa [filter, Directory.reading, Document.inStream, hGranted, hNone] using hHolds

/-- Where categories vanish, the declared filter tree is no bound on what requests select: neither
if nothing is left of it, nor if only a conjunct is lost. -/
theorem requests_exceed_declared_filter :
    let catalog : Catalog := { categories := .ofList [("web", ["back"])], allowAll := false }
    let document : Document := ⟨fun _ => [], fun _ => some .epoch, fun _ => true⟩
    let query (id : String) (filter : Filter) : Query :=
      { id, timeRange := .relative 0, text := .empty, filter := some filter, searchFilters := []
        searchTypes := [{ id := "list", detail := .messages {} }], override := none }
    let queries := [query "gone" (.category "web"),
      query "cut" (.and [.category "web", .queryString "error"])]
    ∃ plans, (Planner.plan {} catalog.directory .epoch {} queries).outcome = .ok plans ∧
      List.Forall₂
        (fun query planned => ∃ filter, query.filter = some filter ∧
          ∃ request ∈ planned.requests, Clause.holds document request.body.query.toJson = true ∧
            filter.holds
              (catalog.directory.reading (document.inStream {}) document.matchesText) = false)
        queries plans := by
  intro catalog document query queries
  refine ⟨_, by with_unfolding_all rfl, .cons ?_ (.cons ?_ .nil)⟩
  · exact ⟨_, rfl, _, List.mem_cons_self, by decide +kernel, by decide +kernel⟩
  · exact ⟨_, rfl, _, List.mem_cons_self, by decide +kernel, by decide +kernel⟩

end Planner

end LogSearch
