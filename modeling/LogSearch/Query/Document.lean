import LogSearch.Query.Wire

/-!
# Documents of queries

A document holds a list of queries or a single query.  Inside a document the tag
of a time range or of a search filter may be spelled out, as everywhere, or be
given by its number among the tags, counted from zero.
-/

namespace LogSearch

namespace QueryDocument

/-! ### Tags by number -/

/-- A tag with its number replaced by its text; a number that is none of a tag stays. -/
def spellTag (tags : List String) : Json → Json
  | .int n => match (Json.int n).unsigned?.bind (tags[·]?) with
    | some tag => .str tag
    | none => .int n
  | value => value

/-- A tagged record with its tag spelled out. -/
def spellRecord (tags : List String) : Json → Json
  | .obj fields =>
    .obj (fields.map fun (name, value) =>
      (name, if name = "type" then spellTag tags value else value))
  | .arr (tag :: items) => .arr (spellTag tags tag :: items)
  | value => value

/-- The value of a field of a query with its tags spelled out. -/
def spellField (name : String) (value : Json) : Json :=
  match name, value with
  | "timerange", range => spellRecord TimeRange.tags range
  | "filters", .arr filters => .arr (filters.map (spellRecord SearchFilter.tags))
  | _, other => other

/-- A query with its tags spelled out. -/
def spellQuery : Json → Json
  | .obj fields => .obj (fields.map fun (name, value) => (name, spellField name value))
  | .arr items =>
    let names := Query.fields.map Json.Field.name
    .arr (List.zipWith spellField names items ++ items.drop names.length)
  | value => value

/-! ### Reading -/

/-- Read a list of queries. -/
def readMany (fresh : Nat → FreshIds) : Json → Attempt (List Query)
  | .arr items => Query.listOfJson fresh 0 (items.map spellQuery)
  | _ => Json.fail .wrongType

/-- Read a document.

Where reading it as a list fails it is read as a query, which can also be written
as a list of its fields; if that fails too, nothing is said about why.
-/
def read (fresh : Nat → FreshIds) (value : Json) : Attempt (List Query) :=
  match readMany fresh value with
  | .ok queries => .ok queries
  | .error _ => match Query.ofJson (fresh 0) (spellQuery value) with
    | .ok query => .ok [query]
    | .error _ => Json.fail .noForm

end QueryDocument

end LogSearch
