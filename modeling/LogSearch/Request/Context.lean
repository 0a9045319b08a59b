import LogSearch.IndexLayout
import LogSearch.Query
import LogSearch.Request.Body

/-!
# What all requests of a query share

The parts of a query that do not depend on the search type are turned into clauses once:
its text, its time range, its filter tree and its search filters become the base
that the request of every search type refines.
-/

namespace LogSearch

namespace Filter

mutual

/-- A filter tree as a clause.  There is no clause for a category. -/
def toClause (layout : IndexLayout) : Filter → Attempt Json
  | .and children => do return Clause.all (← toClauses layout children)
  | .or children => do return Clause.any (← toClauses layout children)
  | .stream id => .ok (Clause.term layout.streamsField id)
  | .queryString query => .ok (Clause.queryString query)
  | .category name => .error (.unexpandedCategory name)

/-- Filter trees as clauses, from the left. -/
def toClauses (layout : IndexLayout) : List Filter → Attempt (List Json)
  | [] => .ok []
  | first :: rest => do return (← toClause layout first) :: (← toClauses layout rest)

end

end Filter

/-- Conditions with those of a search filter added.  There is no clause for a
filter stored elsewhere, unless it is disabled. -/
def BoolQuery.addSearchFilter (query : BoolQuery) : SearchFilter → Attempt BoolQuery
  | .stored id _ false => .error (.unloadedFilter id)
  | .stored _ _ true => .ok query
  | .inline _ _ _ _ true => .ok query
  | .inline _ _ text false false => .ok (query.addFilter (Clause.queryString text))
  | .inline _ _ text true false => .ok (query.addMustNot (Clause.queryString text))

/-- What all requests of a query share. -/
structure QueryContext where
  /-- The body that the request of every search type refines. -/
  base : SearchBody
  /-- The streams that the filter tree names. -/
  streams : NameSet
  /-- The layout of the index. -/
  layout : IndexLayout
  /-- The first instant covered. -/
  start : Instant
  /-- The last instant covered. -/
  stop : Instant

namespace QueryContext

/-- The clause for the text of a query. -/
def textClause (text : QueryText) : Json :=
  if text.isMatchAll then Clause.matchAll else Clause.queryString text.text

/-- The context of a query at a given moment. -/
def ofQuery (layout : IndexLayout) (now : Instant) (query : Query) : Attempt QueryContext := do
  let (start, stop) ← query.timeRange.resolve now
  let timed : BoolQuery :=
    { must := [textClause query.text]
      filter := [Clause.range layout.timestampField start.requestText stop.requestText] }
  let filtered ← match query.filter with
    | none => .ok timed
    | some filter => (filter.toClause layout).map timed.addFilter
  let complete ← query.searchFilters.foldlM BoolQuery.addSearchFilter filtered
  return { base := { query := complete }, streams := query.filterStreams, layout, start, stop }

end QueryContext

end LogSearch
