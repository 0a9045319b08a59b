import LogSearch.Json

/-!
# Clauses

The conditions on documents that request bodies are made of, as the JSON values
the backend takes.
-/

namespace LogSearch

namespace Clause

/-- Every document. -/
def matchAll : Json :=
  .obj [("match_all", .obj [])]

/-- The documents that match a query text. -/
def queryString (text : String) : Json :=
  .obj [("query_string", .obj [("allow_leading_wildcard", .bool true), ("query", .str text)])]

/-- The documents with a value in a field. -/
def term (field value : String) : Json :=
  .obj [("term", .obj [(field, .str value)])]

/-- The documents with any of some values in a field. -/
def terms (field : String) (values : List String) : Json :=
  .obj [("terms", .obj [(field, .texts values)])]

/-- The documents with a value in a field that lies between two bounds, or is one of them. -/
def range (field start stop : String) : Json :=
  .obj [("range", .obj [(field, .obj [("gte", .str start), ("lte", .str stop)])])]

/-- The documents that satisfy all clauses. -/
def all (clauses : List Json) : Json :=
  .obj [("bool", .obj [("filter", .arr clauses)])]

/-- The documents that satisfy at least one clause. -/
def any (clauses : List Json) : Json :=
  .obj [("bool", .obj [("minimum_should_match", .nat 1), ("should", .arr clauses)])]

end Clause

end LogSearch
