import LogSearch.Registry
import LogSearch.Proofs.Translation

/-!
# What a search type adds to the conditions of its query

The request of a search type has the conditions that all requests of its query
share, and behind them further clauses: `addedMust` and `addedFilter`.  Nothing
that the query asks for is taken away, and what the added clauses ask for is said
without them by `SearchType.Admits`: message lists and pivots look at the streams
of a message, event lists at the streams of the messages that an event is about
and at the known attributes.

That the added clauses only narrow the selection rests on the query's text, which
is a clause that must hold; see `BoolQuery.selects_extend_iff`.
-/

namespace LogSearch

/-! ### Clauses that are added -/

namespace Clause

/-- The clauses that restrict a field to some streams; there is none for no streams. -/
def scope (field : String) (streams : NameSet) : List Json :=
  if streams.isEmpty then [] else [terms field streams.toList]

theorem holds_scope {document : Document} {field : String} {streams : NameSet} :
    (∀ clause ∈ scope field streams, holds document clause = true) ↔
      (streams ≠ ∅ → ∃ stream ∈ streams, stream ∈ document.values field) := by
  unfold scope
  by_cases hEmpty : streams = ∅
  · have hIsEmpty : streams.isEmpty = true := NameSet.isEmpty_iff.mpr hEmpty
    rw [if_pos hIsEmpty]
    simp [hEmpty]
  · have hIsEmpty : ¬ streams.isEmpty = true := fun h => hEmpty (NameSet.isEmpty_iff.mp h)
    simp only [if_neg hIsEmpty, List.forall_mem_singleton, holds_terms, List.any_eq_true,
      List.contains_iff_mem, ne_eq, hEmpty, not_false_eq_true, true_imp_iff, NameSet.mem_def]

theorem mem_of_mem_valuesIn_scope {fields : List String} {field stream : String}
    {streams : NameSet} {clause : Json} (hClause : clause ∈ scope field streams)
    (hStream : stream ∈ valuesIn fields clause) : stream ∈ streams := by
  unfold scope at hClause
  split at hClause
  · exact absurd hClause List.not_mem_nil
  · rw [List.mem_singleton] at hClause
    rw [hClause, mem_valuesIn_terms] at hStream
    exact hStream.2

end Clause

theorem AttributeFilter.clauses_eq_nil {filter : AttributeFilter} (h : filter.values = []) :
    filter.clauses = [] := by
  simp [clauses, h]

/-- All values of an attribute filter are asked for by one text. -/
theorem AttributeFilter.exists_clauses_eq {filter : AttributeFilter} (h : filter.values ≠ []) :
    ∃ text, filter.clauses = [text] := by
  cases hValues : filter.values with
  | nil => exact absurd hValues h
  | cons first rest =>
    cases rest with
    | nil => exact ⟨_, by simp only [clauses, hValues, List.map_cons, List.map_nil]; rfl⟩
    | cons second others => exact ⟨_, by simp only [clauses, hValues, List.map_cons]; rfl⟩

namespace EventList

theorem mem_attributeClauses {list : EventList} {text : String} :
    text ∈ list.attributeClauses ↔
      ∃ filter ∈ list.attributes, filter.field ∈ knownAttributes ∧ text ∈ filter.clauses := by
  simp only [attributeClauses, List.mem_flatMap]
  refine exists_congr fun filter => and_congr_right fun _ => ?_
  by_cases hKnown : filter.field ∈ knownAttributes
  · simp [hKnown]
  · simp [hKnown]

/-- Filters on other than the known attributes add nothing. -/
theorem attributeClauses_filter_known (attributes : List AttributeFilter) (list : EventList) :
    { list with attributes := attributes.filter fun filter => filter.field ∈ knownAttributes
      : EventList }.attributeClauses = { list with attributes : EventList }.attributeClauses := by
  simp only [attributeClauses]
  induction attributes with
  | nil => rfl
  | cons first rest ih =>
    by_cases hKnown : first.field ∈ knownAttributes
    · simp only [List.filter_cons, hKnown, decide_true, if_true, List.flatMap_cons, ih]
    · simp only [List.filter_cons, hKnown, decide_false, Bool.false_eq_true, if_false,
        List.flatMap_cons, List.nil_append, ih]

theorem holds_attributeClauses {document : Document} {list : EventList} :
    (∀ clause ∈ list.attributeClauses.map Clause.queryString,
        Clause.holds document clause = true) ↔
      ∀ filter ∈ list.attributes, filter.field ∈ knownAttributes → filter.values ≠ [] →
        ∃ text, filter.clauses = [text] ∧ document.matchesText text = true := by
  simp only [List.forall_mem_map, Clause.holds_queryString, mem_attributeClauses]
  constructor
  · intro hEach filter hFilter hKnown hValues
    obtain ⟨text, hText⟩ := AttributeFilter.exists_clauses_eq hValues
    refine ⟨text, hText, hEach text ⟨filter, hFilter, hKnown, ?_⟩⟩
    rw [hText]
    exact List.mem_singleton_self text
  · rintro hEach text ⟨filter, hFilter, hKnown, hText⟩
    have hValues : filter.values ≠ [] := by
      intro hNone
      rw [AttributeFilter.clauses_eq_nil hNone] at hText
      exact absurd hText List.not_mem_nil
    obtain ⟨only, hOnly, hMatches⟩ := hEach filter hFilter hKnown hValues
    rw [hOnly, List.mem_singleton] at hText
    rw [hText]
    exact hMatches

end EventList

namespace SearchType

/-- What a search type adds to the clauses that must hold and count for the ranking. -/
def addedMust (context : QueryContext) (search : SearchType) : List Json :=
  match search.detail with
  | .events _ =>
    Clause.scope EventList.sourceStreamsField (EventList.effectiveStreams context search)
  | .messages _ | .pivot _ => []

/-- What a search type adds to the clauses that must hold. -/
def addedFilter (context : QueryContext) (search : SearchType) : List Json :=
  match search.detail with
  | .events list => list.attributeClauses.map Clause.queryString
  | .messages _ | .pivot _ => Clause.scope context.layout.streamsField search.streams

section Request

variable {context : QueryContext} {search : SearchType} {body : SearchBody}

theorem restrictToOwn_query :
    (context.base.restrictToOwn context.layout search).query =
      context.base.query.extend [] (Clause.scope context.layout.streamsField search.streams) := by
  unfold SearchBody.restrictToOwn Clause.scope
  split
  · exact (BoolQuery.extend_nil _).symm
  · simp [BoolQuery.extend, BoolQuery.addFilter]

theorem addTexts_eq_extend (texts : List String) (query : BoolQuery) :
    texts.foldl (fun query text => query.addFilter (Clause.queryString text)) query =
      query.extend [] (texts.map Clause.queryString) := by
  induction texts generalizing query with
  | nil => exact (BoolQuery.extend_nil query).symm
  | cons first rest ih =>
    have hFirst : query.addFilter (Clause.queryString first) =
        query.extend [] [Clause.queryString first] := by
      simp [BoolQuery.extend, BoolQuery.addFilter]
    rw [List.foldl_cons, ih, hFirst, BoolQuery.extend_extend]
    rfl

theorem conditions_eq_extend (list : EventList) :
    list.conditions context search =
      context.base.query.extend
        (Clause.scope EventList.sourceStreamsField (EventList.effectiveStreams context search))
        (list.attributeClauses.map Clause.queryString) := by
  unfold EventList.conditions Clause.scope
  rw [addTexts_eq_extend]
  split
  · rfl
  · simp only [BoolQuery.extend, BoolQuery.addMust, List.append_nil]

/-- Paging only decides where a list of events starts and how long it is. -/
theorem query_of_eventRequest {list : EventList} (h : list.request context search = .ok body) :
    body.query = list.conditions context search := by
  unfold EventList.request at h
  split at h
  · rw [Except.ok.injEq] at h
    rw [← h]
  · simp only [bind_eq_ok, pure_eq_ok] at h
    obtain ⟨start, -, rfl⟩ := h
    rfl

/-- The conditions of a request are those of its query with what the search type adds. -/
theorem request_query_eq (h : search.request context = .ok body) :
    body.query = context.base.query.extend (search.addedMust context)
      (search.addedFilter context) := by
  unfold request at h
  unfold addedMust addedFilter
  cases hDetail : search.detail with
  | messages list =>
    rw [hDetail, Except.ok.injEq] at h
    rw [← h]
    exact restrictToOwn_query
  | events list =>
    rw [hDetail] at h
    rw [query_of_eventRequest h]
    exact conditions_eq_extend list
  | pivot pivot =>
    rw [hDetail, Except.ok.injEq] at h
    rw [← h]
    exact restrictToOwn_query

theorem request_filter_known {list : EventList} (hList : search.detail = .events list) :
    { search with
      detail := .events { list with
        attributes := list.attributes.filter fun filter =>
          filter.field ∈ EventList.knownAttributes } : SearchType }.request context =
      search.request context := by
  have hClauses := EventList.attributeClauses_filter_known list.attributes list
  simp only [request, hList, EventList.request, EventList.conditions, hClauses]
  rfl

end Request

/-- What a search type asks of a document on top of its query.  An empty set of streams asks for
nothing. -/
def Admits (layout : IndexLayout) (query : Query) (search : SearchType) (document : Document) :
    Prop :=
  match search.detail with
  | .messages _ | .pivot _ =>
    search.streams ≠ ∅ → ∃ stream ∈ search.streams, stream ∈ document.values layout.streamsField
  | .events list =>
    (let streams := if search.streams = ∅ then query.filterStreams else search.streams
     streams ≠ ∅ → ∃ stream ∈ streams, stream ∈ document.values "source_streams") ∧
    ∀ filter ∈ list.attributes, filter.field ∈ EventList.knownAttributes → filter.values ≠ [] →
      ∃ text, filter.clauses = [text] ∧ document.matchesText text = true

/-- The added clauses ask for what the search type asks for. -/
theorem holds_added_iff {context : QueryContext} {query : Query} {document : Document}
    (search : SearchType) (hStreams : context.streams = query.filterStreams) :
    (∀ clause ∈ search.addedMust context ++ search.addedFilter context,
        Clause.holds document clause = true) ↔
      search.Admits context.layout query document := by
  have hEffective : EventList.effectiveStreams context search =
      if search.streams = ∅ then query.filterStreams else search.streams := by
    rw [EventList.effectiveStreams, hStreams]
    exact if_congr NameSet.isEmpty_iff rfl rfl
  rw [List.forall_mem_append]
  unfold addedMust addedFilter Admits
  cases search.detail with
  | messages list => simpa using Clause.holds_scope
  | events list =>
    rw [hEffective]
    exact and_congr Clause.holds_scope EventList.holds_attributeClauses
  | pivot pivot => simpa using Clause.holds_scope

end SearchType

namespace Handler

theorem request_of_kind {handler : Handler} {search : SearchType}
    (hKind : handler.kind = search.kind) (context : QueryContext) :
    handler.request context search = search.request context := by
  have hAccept : handler.accept search = .ok () := if_pos hKind.symm
  rw [request, hAccept]
  rfl

/-- The request that a handler makes of a search type of its kind selects those documents that the
base of the query's requests selects and the search type admits.  The clauses of the base are all
there, unchanged and in the same lists, before those that are added, and filters on other than the
known attributes make no difference to the request. -/
theorem request_refines_base {layout : IndexLayout} {now : Instant} {query : Query}
    {context : QueryContext} {handler : Handler} {search : SearchType} {body : SearchBody}
    (hContext : QueryContext.ofQuery layout now query = .ok context)
    (hKind : handler.kind = search.kind) (hRequest : handler.request context search = .ok body) :
    (∀ document : Document,
      Clause.holds document body.query.toJson = true ↔
        Clause.holds document context.base.query.toJson = true ∧
          search.Admits layout query document) ∧
    (∃ must filter, body.query =
      { context.base.query with
        must := context.base.query.must ++ must
        filter := context.base.query.filter ++ filter }) ∧
    (∀ list, search.detail = .events list →
      handler.request context
        { search with
          detail := .events { list with
            attributes := list.attributes.filter fun filter =>
              filter.field ∈ EventList.knownAttributes } } = .ok body) := by
  rw [request_of_kind hKind] at hRequest
  have hQuery := SearchType.request_query_eq hRequest
  obtain ⟨start, stop, clauses, -, -, -, hEq⟩ := QueryContext.ofQuery_eq_ok_iff.mp hContext
  have hMust : context.base.query.must ≠ [] := by
    rw [hEq]
    exact List.cons_ne_nil _ _
  have hLayout : context.layout = layout := by rw [hEq]
  have hStreams : context.streams = query.filterStreams := by rw [hEq]
  refine ⟨fun document => ?_, ⟨_, _, hQuery⟩, fun list hList => ?_⟩
  · rw [hQuery, ← hLayout, ← SearchType.holds_added_iff search hStreams]
    exact BoolQuery.selects_extend_iff hMust
  · have hSameKind : handler.kind = SearchKind.events := by
      rw [hKind, SearchType.kind, hList]
    rw [request_of_kind hSameKind, SearchType.request_filter_known hList, hRequest]

/-- A list of events without streams of its own, in a query with streams, with a filter on an
attribute that is known and one on an attribute that is not. -/
theorem request_refines_base_of_events :
    let query : Query :=
      { id := "q", timeRange := .relative 0, text := ⟨"level:3"⟩, filter := some (.stream "web")
        searchFilters := [], searchTypes := [], override := none }
    let search : SearchType :=
      { id := "alerts"
        detail := .events { attributes := [{ field := "priority", values := ["2"] },
          { field := "colour", values := ["red"] }, { field := "key" }] } }
    ∃ context body, QueryContext.ofQuery {} .epoch query = .ok context ∧
      Handler.request ⟨.events⟩ context search = .ok body ∧
      ∀ document : Document, Clause.holds document body.query.toJson = true ↔
        Clause.holds document context.base.query.toJson = true ∧
          "web" ∈ document.values "source_streams" ∧
            document.matchesText "priority:\"2\"" = true := by
  intro query search
  obtain ⟨context, hContext⟩ : ∃ context, QueryContext.ofQuery {} .epoch query = .ok context :=
    ⟨_, rfl⟩
  obtain ⟨body, hBody⟩ : ∃ body, Handler.request ⟨.events⟩ context search = .ok body := ⟨_, rfl⟩
  refine ⟨context, body, hContext, hBody, fun document => ?_⟩
  have hScope : query.filterStreams = .singleton "web" := by decide
  have hClause : ({ field := "priority", values := ["2"] } : AttributeFilter).clauses =
      ["priority:\"2\""] := by decide
  have hAdmits : search.Admits {} query document ↔
      "web" ∈ document.values "source_streams" ∧
        document.matchesText "priority:\"2\"" = true := by
    have hSome : NameSet.singleton "web" ≠ ∅ := by decide
    simp [SearchType.Admits, search, hScope, hSome, hClause, EventList.knownAttributes]
  rw [(request_refines_base hContext rfl hBody).1 document, hAdmits]

end Handler

end LogSearch
