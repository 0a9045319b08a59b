import LogSearch.Filter
import LogSearch.Json.Shape

/-!
# Filters as JSON

A filter is written as its tag, the text of a leaf and the list of children,
which is null for a leaf.  Reading accepts the fields in any order, an absent
list of children for a leaf, and it normalizes: children that equal an earlier
sibling are dropped.
-/

namespace LogSearch

namespace Filter

/-! ### Writing -/

mutual

/-- The JSON form of a filter. -/
def toJson : Filter → Json
  | .and children =>
    .obj [("type", .str FilterKind.and.tag), ("filters", .arr (listToJson children))]
  | .or children =>
    .obj [("type", .str FilterKind.or.tag), ("filters", .arr (listToJson children))]
  | .stream id =>
    .obj [("type", .str FilterKind.stream.tag), ("id", .str id), ("filters", .null)]
  | .category name =>
    .obj [("type", .str FilterKind.streamCategory.tag), ("category", .str name),
      ("filters", .null)]
  | .queryString query =>
    .obj [("type", .str FilterKind.queryString.tag), ("query", .str query), ("filters", .null)]

/-- The JSON forms of a list of filters. -/
def listToJson : List Filter → List Json
  | [] => []
  | first :: rest => toJson first :: listToJson rest

end

/-! ### Reading -/

/-- The fields of a filter before it is known which of them its kind needs. -/
structure Parts where
  tag : String := ""
  filters : Option (List Filter) := none
  id : Option String := none
  category : Option String := none
  query : Option String := none

/-- The text of a leaf, which must be there and not be empty. -/
def requireText (kind : FilterKind) (field : String) : Option String → Attempt String
  | none => .error (.invalid (.leafWithoutText kind field))
  | some text =>
    if text.isEmpty then .error (.invalid (.leafWithoutText kind field)) else .ok text

/-- The filter that the fields describe. -/
def ofParts (parts : Parts) : Attempt Filter :=
  match FilterKind.ofTag? parts.tag with
  | none => .error (.unknownTag .filter parts.tag)
  | some kind =>
    let children := parts.filters.getD []
    match kind with
    | .and => and? children
    | .or => or? children
    | kind =>
      if !children.isEmpty then .error (.invalid (.leafWithChildren kind))
      else match kind with
        | .streamCategory => (requireText kind "category" parts.category).map .category
        | .queryString => (requireText kind "query" parts.query).map .queryString
        | kind => (requireText kind "id" parts.id).map .stream

/-- The fields of a filter, given what reading the list of children gave. -/
def fields (children : Attempt (Option (List Filter))) : List (Json.Field Parts) := [
  ⟨"type", true, fun parts value => do return { parts with tag := ← value.asText }⟩,
  ⟨"filters", false, fun parts _ => do return { parts with filters := ← children }⟩,
  ⟨"id", false, fun parts value => do return { parts with id := ← value.asOption Json.asText }⟩,
  ⟨"category", false, fun parts value => do
    return { parts with category := ← value.asOption Json.asText }⟩,
  ⟨"query", false, fun parts value => do
    return { parts with query := ← value.asOption Json.asText }⟩]

mutual

/-- Read a filter. -/
def ofJson : Json → Attempt Filter
  | .obj entries => do
    ofParts (← (Json.obj entries).asRecord (fields (childrenOfFields entries)) {})
  | .arr items => do ofParts (← (Json.arr items).asRecord (fields (childrenOfItems items)) {})
  | _ => Json.fail .wrongType

/-- Read the list of children from its field. -/
def childrenOfFields : List (String × Json) → Attempt (Option (List Filter))
  | [] => .ok none
  | (name, value) :: rest => if name = "filters" then childrenOf value else childrenOfFields rest

/-- Read the list of children from its place in an array. -/
def childrenOfItems : List Json → Attempt (Option (List Filter))
  | _ :: value :: _ => childrenOf value
  | _ => .ok none

/-- Read a list of children that may be null. -/
def childrenOf : Json → Attempt (Option (List Filter))
  | .null => .ok none
  | .arr items => (listOfJson items).map some
  | _ => Json.fail .wrongType

/-- Read filters from the left. -/
def listOfJson : List Json → Attempt (List Filter)
  | [] => .ok []
  | first :: rest => do return (← ofJson first) :: (← listOfJson rest)

end

end Filter

end LogSearch
