import LogSearch.Query

/-!
# Queries as JSON

A query is written with its search filters left out when there are none; the
form in which queries are exported always lists them.  The override that was
applied to a query is not written.  Everything that is read is optional.
-/

namespace LogSearch

namespace Query

/-- The JSON form of a query, given how its search filters are written. -/
def toJsonWith (searchFilters : List (String × Json)) (query : Query) : Json :=
  .obj <| [("id", .str query.id), ("timerange", query.timeRange.toJson),
      ("query", query.text.toJson), ("filter", .optional Filter.toJson query.filter)]
    ++ searchFilters ++ [("search_types", .arr (query.searchTypes.map SearchType.toJson))]

/-- The JSON forms of the search filters. -/
def searchFiltersJson (query : Query) : Json :=
  .arr (query.searchFilters.map SearchFilter.toJson)

/-- The JSON form of a query. -/
def toJson (query : Query) : Json :=
  query.toJsonWith
    (Json.fieldWhen (!query.searchFilters.isEmpty) "filters" query.searchFiltersJson)

/-- The JSON form in which a query is exported. -/
def exportJson (query : Query) : Json :=
  query.toJsonWith [("filters", query.searchFiltersJson)]

/-- The fields of a query. -/
def fields : List (Json.Field QueryDraft) := [
  ⟨"id", false, fun draft value => do return { draft with id := ← value.asOption Json.asText }⟩,
  ⟨"timerange", false, fun draft value => do
    return { draft with timeRange := ← value.asOption TimeRange.ofJson }⟩,
  ⟨"query", false, fun draft value => do
    return { draft with text := ← value.asOption QueryText.ofJson }⟩,
  ⟨"filter", false, fun draft value => do
    return { draft with filter := ← value.asOption Filter.ofJson }⟩,
  ⟨"filters", false, fun draft value => do
    return { draft with
      searchFilters := (← value.asOption (Json.asList SearchFilter.ofJson)).getD [] }⟩,
  ⟨"search_types", false, fun draft value => do
    return { draft with searchTypes := ← value.asList SearchType.ofJson }⟩]

/-- Read a query, with new ids where it lacks them. -/
def ofJson (fresh : FreshIds) (value : Json) : Attempt Query := do
  (← value.asRecord fields {}).build fresh

/-- Read queries from the left, each with new ids of its own. -/
def listOfJson (fresh : Nat → FreshIds) (place : Nat) : List Json → Attempt (List Query)
  | [] => .ok []
  | first :: rest => do
    return (← ofJson (fresh place) first) :: (← listOfJson fresh (place + 1) rest)

end Query

end LogSearch
