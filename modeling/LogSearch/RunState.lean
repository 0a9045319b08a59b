import LogSearch.QueryText
import LogSearch.SearchType.Wire
import LogSearch.Time.Range

/-!
# The state of a run

A request to run queries can come with overrides: another time range or query
text, other paging of single search types, a choice of the queries and search
types to run at all, and values for the parameters of query texts.  An override
for all queries takes precedence over one for a single query as soon as it sets
a time range or a text; the two are never mixed.
-/

namespace LogSearch

/-- What is overridden for one query, or for all. -/
structure Override where
  /-- Another time range. -/
  timeRange : Option TimeRange := none
  /-- Another query text. -/
  query : Option QueryText := none
  /-- Other paging of search types, by their ids. -/
  searchTypes : Keyed PagingOverride := ∅
  /-- The search types to run; none stands for all. -/
  keepSearchTypes : NameSet := ∅
  /-- The queries to run; none stands for all. -/
  keepQueries : NameSet := ∅
  deriving DecidableEq, Inhabited

namespace Override

/-- Whether neither time range nor query text is overridden. -/
def isEmpty (override : Override) : Bool :=
  override.timeRange.isNone && override.query.isNone

/-- Whether a query is to be run. -/
def keepsQuery (override : Override) (id : String) : Bool :=
  override.keepQueries.keeps id

/-- Whether a search type is to be run. -/
def keepsSearchType (override : Override) (id : String) : Bool :=
  override.keepSearchTypes.keeps id

/-- The JSON form of an override, which leaves out what is not set. -/
def toJson (override : Override) : Json :=
  .obj <| Json.optionalField "timerange" TimeRange.toJson override.timeRange
    ++ Json.optionalField "query" QueryText.toJson override.query
    ++ Json.fieldWhen (!override.searchTypes.isEmpty) "search_types"
        (.keyed PagingOverride.toJson override.searchTypes)
    ++ Json.fieldWhen (!override.keepSearchTypes.isEmpty) "keep_search_types"
        (.names override.keepSearchTypes)
    ++ Json.fieldWhen (!override.keepQueries.isEmpty) "keep_queries" (.names override.keepQueries)

/-- The fields of an override. -/
def fields : List (Json.Field Override) := [
  ⟨"timerange", false, fun override value => do
    return { override with timeRange := ← value.asOption TimeRange.ofJson }⟩,
  ⟨"query", false, fun override value => do
    return { override with query := ← value.asOption QueryText.ofJson }⟩,
  ⟨"search_types", false, fun override value => do
    return { override with searchTypes := ← value.asKeyed PagingOverride.ofJson }⟩,
  ⟨"keep_search_types", false, fun override value => do
    return { override with keepSearchTypes := ← value.asNames }⟩,
  ⟨"keep_queries", false, fun override value => do
    return { override with keepQueries := ← value.asNames }⟩]

/-- Read an override. -/
def ofJson (value : Json) : Attempt Override := value.asRecord fields {}

end Override

/-- Everything a request can say about a run. -/
structure RunState where
  /-- The override for all queries. -/
  global : Override := {}
  /-- The overrides for single queries, by their ids. -/
  queries : Keyed Override := ∅
  /-- Other paging of search types, by their ids. -/
  searchTypes : Keyed PagingOverride := ∅
  /-- The values of the parameters of query texts. -/
  parameters : Keyed Json := ∅
  deriving Inhabited

namespace RunState

/-- The state of a request that says nothing. -/
def empty : RunState := {}

/-- The state with another override for all queries. -/
def withGlobal (state : RunState) (override : Override) : RunState :=
  { state with global := override }

/-- The state with an override for a query. -/
def withQuery (state : RunState) (id : String) (override : Override) : RunState :=
  { state with queries := state.queries.insert id override }

/-- The state with other paging of a search type. -/
def withSearchType (state : RunState) (id : String) (paging : PagingOverride) : RunState :=
  { state with searchTypes := state.searchTypes.insert id paging }

/-- The state with a value for a parameter. -/
def withParameter (state : RunState) (name : String) (value : Json) : RunState :=
  { state with parameters := state.parameters.insert name value }

/-- The override that takes effect for a query: the one for all queries if it sets anything,
otherwise the query's own if that sets anything. -/
def effectiveOverride? (state : RunState) (queryId : String) : Option Override :=
  if !state.global.isEmpty then some state.global
  else (state.queries.get? queryId).filter fun override => !override.isEmpty

/-- The change of paging for a search type: the state's own, otherwise the one in the override
for all queries. -/
def paging? (state : RunState) (searchTypeId : String) : Option PagingOverride :=
  (state.searchTypes.get? searchTypeId).or (state.global.searchTypes.get? searchTypeId)

/-- A search type with the change of paging that the state holds for it. -/
def repaged (state : RunState) (search : SearchType) : SearchType :=
  (state.paging? search.id).elim search search.repage

/-- Whether the state changes the paging of any search type. -/
def changesPaging (state : RunState) : Bool :=
  !state.searchTypes.isEmpty || !state.global.searchTypes.isEmpty

/-- The JSON form of a state. -/
def toJson (state : RunState) : Json :=
  .obj [("global_override", state.global.toJson),
    ("queries", .keyed Override.toJson state.queries),
    ("search_types", .keyed PagingOverride.toJson state.searchTypes),
    ("parameters", .keyed id state.parameters)]

/-- The fields of a state. -/
def fields : List (Json.Field RunState) := [
  ⟨"global_override", false, fun state value => do
    return { state with global := ← Override.ofJson value }⟩,
  ⟨"queries", false, fun state value => do
    return { state with queries := ← value.asKeyed Override.ofJson }⟩,
  ⟨"search_types", false, fun state value => do
    return { state with searchTypes := ← value.asKeyed PagingOverride.ofJson }⟩,
  ⟨"parameters", false, fun state value => do
    return { state with parameters := ← value.asKeyed Json.asAny }⟩]

/-- Read a state. -/
def ofJson (value : Json) : Attempt RunState := value.asRecord fields {}

end RunState

end LogSearch
