import LogSearch.Query.Wire
import LogSearch.Registry

/-!
# Plans

Planning turns declared queries into requests.  For every query that is to be
run, the state of the run is applied, the parameters of its text are bound, its
categories are expanded, and then every search type that is to be run becomes a
request.  The first failure ends the whole plan.
-/

namespace LogSearch

/-- A request for one search type of a query. -/
structure PlannedRequest where
  queryId : String
  searchTypeId : String
  body : SearchBody

/-- A query ready to be sent. -/
structure PlannedQuery where
  /-- The query in the form in which it is run. -/
  query : Query
  /-- What its requests share. -/
  context : QueryContext
  /-- One request for each search type that is to be run, in declared order. -/
  requests : List PlannedRequest

/-- What planning depends on besides the queries. -/
structure Planner where
  /-- The handlers in use. -/
  registry : Registry := .default
  /-- The layout of the index. -/
  layout : IndexLayout := {}

namespace Planner

/-- The query as it is run: with the state applied, its parameters bound and its categories
expanded. -/
def effectiveQuery (directory : Directory) (state : RunState) (query : Query) :
    Consult Query := do
  let applied := query.applyState state
  let text ← Consult.ofAttempt (applied.text.bind state.parameters)
  (applied.withText text).expandCategories directory

/-- The request for a search type of a query. -/
def planRequest (planner : Planner) (context : QueryContext) (queryId : String)
    (search : SearchType) : Attempt PlannedRequest := do
  return { queryId, searchTypeId := search.id, body := ← planner.registry.request context search }

/-- The requests of a query that is ready to be run. -/
def planEffective (planner : Planner) (now : Instant) (state : RunState) (query : Query) :
    Attempt PlannedQuery := do
  let context ← QueryContext.ofQuery planner.layout now query
  let kept := query.searchTypes.filter fun search => state.global.keepsSearchType search.id
  let requests ← kept.mapM (planner.planRequest context query.id)
  return { query, context, requests }

/-- The plan of one query. -/
def planQuery (planner : Planner) (directory : Directory) (now : Instant) (state : RunState)
    (query : Query) : Consult PlannedQuery := do
  let effective ← effectiveQuery directory state query
  Consult.ofAttempt (planner.planEffective now state effective)

/-- The plans of queries, from the left. -/
def planAll (planner : Planner) (directory : Directory) (now : Instant) (state : RunState) :
    List Query → Consult (List PlannedQuery)
  | [] => pure []
  | first :: rest => do
    let planned ← planner.planQuery directory now state first
    let others ← planAll planner directory now state rest
    return planned :: others

/-- The plan of those queries that are to be run. -/
def plan (planner : Planner) (directory : Directory) (now : Instant) (state : RunState)
    (queries : List Query) : Consult (List PlannedQuery) :=
  planner.planAll directory now state
    (queries.filter fun query => state.global.keepsQuery query.id)

/-- The result of a search type of a planned query. -/
def extract (planner : Planner) (planned : PlannedQuery) (searchTypeId : String)
    (response : Response) : Attempt SearchResult :=
  match planned.query.searchType? searchTypeId with
  | none => .error (.badResponse searchTypeId .noSearchType)
  | some search => planner.registry.result search response

end Planner

end LogSearch
