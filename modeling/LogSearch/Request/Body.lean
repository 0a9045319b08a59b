import LogSearch.Request.Clause
import LogSearch.SearchType

/-!
# Request bodies

What is sent to the backend for one search type: the conditions on documents,
how to sort them, which part of them is wanted, and which aggregations to
compute.  In the JSON form, objects list their fields in ascending order and
leave out what is absent or empty.
-/

namespace LogSearch

/-- Conditions on documents, by the way they count. -/
structure BoolQuery where
  /-- The clauses that must hold and count for the ranking. -/
  must : List Json := []
  /-- The clauses that must hold. -/
  filter : List Json := []
  /-- The clauses of which a number should hold. -/
  should : List Json := []
  /-- The clauses that must not hold. -/
  mustNot : List Json := []
  /-- How many of the clauses that should hold have to. -/
  minimumShouldMatch : Option UInt32 := none
  deriving Inhabited

namespace BoolQuery

/-- With one more clause that must hold and counts for the ranking. -/
def addMust (query : BoolQuery) (clause : Json) : BoolQuery :=
  { query with must := query.must ++ [clause] }

/-- With one more clause that must hold. -/
def addFilter (query : BoolQuery) (clause : Json) : BoolQuery :=
  { query with filter := query.filter ++ [clause] }

/-- With one more clause that should hold. -/
def addShould (query : BoolQuery) (clause : Json) : BoolQuery :=
  { query with should := query.should ++ [clause] }

/-- With one more clause that must not hold. -/
def addMustNot (query : BoolQuery) (clause : Json) : BoolQuery :=
  { query with mustNot := query.mustNot ++ [clause] }

/-- A list of clauses as a field, which is left out when the list is empty. -/
def clauseField (name : String) (clauses : List Json) : List (String × Json) :=
  Json.fieldWhen (!clauses.isEmpty) name (.arr clauses)

/-- The JSON form of the conditions. -/
def toJson (query : BoolQuery) : Json :=
  .obj [("bool", .obj <|
    clauseField "filter" query.filter
      ++ Json.optionalField "minimum_should_match" .word query.minimumShouldMatch
      ++ clauseField "must" query.must
      ++ clauseField "must_not" query.mustNot
      ++ clauseField "should" query.should)]

end BoolQuery

/-- The JSON form of a sort key in a request. -/
def SortKey.requestJson (key : SortKey) : Json :=
  .obj [(key.field, .obj [("order", .str key.direction.word)])]

/-- The body of a request. -/
structure SearchBody where
  /-- The conditions on documents. -/
  query : BoolQuery := {}
  /-- The keys to sort by, the most important first. -/
  sort : List SortKey := []
  /-- The place of the first document wanted. -/
  start : Option UInt32 := none
  /-- The number of documents wanted. -/
  size : Option UInt32 := none
  /-- The aggregations to compute. -/
  aggregations : Keyed Json := ∅
  deriving Inhabited

namespace SearchBody

/-- The JSON form of a body. -/
def toJson (body : SearchBody) : Json :=
  .obj <|
    Json.fieldWhen (!body.aggregations.isEmpty) "aggregations" (.keyed id body.aggregations)
      ++ Json.optionalField "from" .word body.start
      ++ [("query", body.query.toJson)]
      ++ Json.optionalField "size" .word body.size
      ++ Json.fieldWhen (!body.sort.isEmpty) "sort" (.arr (body.sort.map SortKey.requestJson))
      ++ [("track_total_hits", .bool true)]

end SearchBody

end LogSearch
