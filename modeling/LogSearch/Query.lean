import LogSearch.Filter.Expansion
import LogSearch.Filter.Wire
import LogSearch.RunState
import LogSearch.SearchFilter

/-!
# Queries

A query declares a search: a time range, a query text, a filter tree, further
search filters, and the search types whose results are wanted.  What a
declaration leaves out is filled in when the query is built; ids that are
missing come from outside, as `FreshIds`.
-/

namespace LogSearch

/-- New ids for a query that lacks some. -/
structure FreshIds where
  /-- The id for the query itself. -/
  query : String
  /-- The ids for its search types, by their places. -/
  searchType : Nat → String

/-- A declared search. -/
structure Query where
  /-- The id of the query. -/
  id : String
  /-- The time it covers. -/
  timeRange : TimeRange
  /-- The free text to match. -/
  text : QueryText
  /-- The filter tree. -/
  filter : Option Filter
  /-- Further filters. -/
  searchFilters : List SearchFilter
  /-- The results wanted, with distinct ids. -/
  searchTypes : List SearchType
  /-- The override that was applied to the query, if any. -/
  override : Option Override
  deriving DecidableEq

/-- What a query is declared with, before what is missing is filled in. -/
structure QueryDraft where
  id : Option String := none
  timeRange : Option TimeRange := none
  text : Option QueryText := none
  filter : Option Filter := none
  searchFilters : List SearchFilter := []
  searchTypes : List SearchType := []

/-! ### Building queries -/

/-- Give an id to every search type that has none. -/
def nameSearchTypes (fresh : Nat → String) (place : Nat) : List SearchType → List SearchType
  | [] => []
  | first :: rest =>
    (if first.id.isEmpty then first.withId (fresh place) else first)
      :: nameSearchTypes fresh (place + 1) rest

/-- Give an id to every search type that has none, and refuse repeated ids. -/
def assignIds (fresh : Nat → String) (searchTypes : List SearchType) :
    Attempt (List SearchType) :=
  let named := nameSearchTypes fresh 0 searchTypes
  match firstRepeated? [] (named.map SearchType.id) with
  | some id => .error (.invalid (.duplicateSearchType id))
  | none => .ok named

/-- The query that a draft declares.  A blank id counts as none. -/
def QueryDraft.build (fresh : FreshIds) (draft : QueryDraft) : Attempt Query := do
  let id := match draft.id with
    | some id => if Text.isBlankText id then fresh.query else id
    | none => fresh.query
  return {
    id
    timeRange := draft.timeRange.getD .default
    text := draft.text.getD .empty
    filter := draft.filter
    searchFilters := draft.searchFilters
    searchTypes := ← assignIds fresh.searchType draft.searchTypes
    override := none }

namespace Query

/-- The draft that declares a query again. -/
def toDraft (query : Query) : QueryDraft where
  id := some query.id
  timeRange := some query.timeRange
  text := some query.text
  filter := query.filter
  searchFilters := query.searchFilters
  searchTypes := query.searchTypes

/-! ### Looking at queries -/

/-- The search type of an id. -/
def searchType? (query : Query) (id : String) : Option SearchType :=
  query.searchTypes.find? fun search => search.id == id

/-- Whether some search filter is stored elsewhere. -/
def hasStoredFilters (query : Query) : Bool :=
  query.searchFilters.any SearchFilter.isStored

/-- The streams that the filter tree names. -/
def filterStreams (query : Query) : NameSet :=
  match query.filter with
  | none => ∅
  | some filter => filter.streamIds

/-- The categories that the filter tree names. -/
def filterCategories (query : Query) : NameSet :=
  match query.filter with
  | none => ∅
  | some filter => filter.categories

/-- All streams that the query names, in its filter tree or as restrictions of search types. -/
def namedStreams (query : Query) : NameSet :=
  query.searchTypes.foldl (fun names search => names ∪ search.streams) query.filterStreams

/-! ### Changing queries -/

/-- The query over another time range. -/
def withTimeRange (query : Query) (timeRange : TimeRange) : Query := { query with timeRange }

/-- The query with another text. -/
def withText (query : Query) (text : QueryText) : Query := { query with text }

/-- The query with another filter tree. -/
def withFilter (query : Query) (filter : Option Filter) : Query := { query with filter }

/-- The query with other search filters. -/
def withSearchFilters (query : Query) (searchFilters : List SearchFilter) : Query :=
  { query with searchFilters }

/-- The query with other search types, which get ids as when a query is built. -/
def withSearchTypes (fresh : Nat → String) (query : Query) (searchTypes : List SearchType) :
    Attempt Query := do
  return { query with searchTypes := ← assignIds fresh searchTypes }

/-- The query restricted to some streams on top of its own filter; no streams, no restriction. -/
def restrictTo (query : Query) (streams : NameSet) : Query :=
  match Filter.anyStreamOf streams.toList with
  | none => query
  | some restriction =>
    query.withFilter (some (match query.filter with
      | none => restriction
      | some filter => .both restriction filter))

/-- The query with the categories of its filter replaced by readable streams. -/
def expandCategories (directory : Directory) (query : Query) : Consult Query :=
  match query.filter with
  | none => pure query
  | some filter => do
    let expanded ← filter.expand directory
    return query.withFilter expanded

/-- The query with the override that takes effect for it, which it records. -/
def applyOverride (query : Query) (override : Override) : Query :=
  { query with
    timeRange := override.timeRange.getD query.timeRange
    text := override.query.getD query.text
    override := some override }

/-- The query as a request wants it run: with the override that takes effect for it, and with
the paging of its search types changed. -/
def applyState (state : RunState) (query : Query) : Query :=
  let overridden := match state.effectiveOverride? query.id with
    | some override => query.applyOverride override
    | none => query
  { overridden with searchTypes := query.searchTypes.map state.repaged }

end Query

end LogSearch
