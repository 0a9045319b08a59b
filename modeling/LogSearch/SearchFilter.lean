import LogSearch.Json.Shape

/-!
# Search filters

Filters that a query carries besides its filter tree: a query text written out
in place, or a reference to a filter stored elsewhere that has to be loaded
before the query can run.  Either can be negated or disabled.
-/

namespace LogSearch

/-- A search filter of a query. -/
inductive SearchFilter
  /-- A filter written out as a query text. -/
  | inline (title description : Option String) (query : String) (negated disabled : Bool)
  /-- A filter stored elsewhere. -/
  | stored (id : String) (negated disabled : Bool)
  deriving DecidableEq

namespace SearchFilter

/-- An enabled filter written out as a query text. -/
def ofText (query : String) : SearchFilter := .inline none none query false false

/-- An enabled filter stored elsewhere. -/
def ofId (id : String) : SearchFilter := .stored id false false

/-- Whether the filter is stored elsewhere. -/
def isStored : SearchFilter → Bool
  | .inline .. => false
  | .stored .. => true

/-- Whether the filter takes no part in the search. -/
def isDisabled : SearchFilter → Bool
  | .inline _ _ _ _ disabled | .stored _ _ disabled => disabled

/-- Whether the filter excludes what it matches. -/
def isNegated : SearchFilter → Bool
  | .inline _ _ _ negated _ | .stored _ negated _ => negated

/-- The query text of an enabled filter that is written out. -/
def activeText? : SearchFilter → Option String
  | .inline _ _ query _ false => some query
  | _ => none

/-! ### JSON -/

/-- The tags of search filters. -/
def tags : List String := ["inline_query_string", "referenced"]

/-- The JSON form of a search filter. -/
def toJson : SearchFilter → Json
  | .inline title description query negated disabled =>
    .obj <| [("type", .str "inline_query_string")] ++ Json.optionalField "title" .str title
      ++ Json.optionalField "description" .str description
      ++ [("query_string", .str query), ("negation", .bool negated), ("disabled", .bool disabled)]
  | .stored id negated disabled =>
    .obj [("type", .str "referenced"), ("id", .str id), ("negation", .bool negated),
      ("disabled", .bool disabled)]

/-- The fields of either variant. -/
structure Parts where
  title : Option String := none
  description : Option String := none
  text : String := ""
  negated : Bool := false
  disabled : Bool := false

/-- The fields that both variants end with. -/
def switchFields : List (Json.Field Parts) := [
  ⟨"negation", false, fun parts value => do return { parts with negated := ← value.asBool }⟩,
  ⟨"disabled", false, fun parts value => do return { parts with disabled := ← value.asBool }⟩]

/-- The field that holds the text of a filter. -/
def textField (name : String) : Json.Field Parts :=
  ⟨name, true, fun parts value => do return { parts with text := ← value.asText }⟩

/-- The fields of a filter that is written out. -/
def inlineFields : List (Json.Field Parts) := [
  ⟨"title", false, fun parts value => do
    return { parts with title := ← value.asOption Json.asText }⟩,
  ⟨"description", false, fun parts value => do
    return { parts with description := ← value.asOption Json.asText }⟩,
  textField "query_string"] ++ switchFields

/-- The fields of a filter stored elsewhere. -/
def storedFields : List (Json.Field Parts) := textField "id" :: switchFields

/-- Read a search filter. -/
def ofJson (value : Json) : Attempt SearchFilter := do
  let (tag, content) ← value.splitTag
  match tag with
  | "inline_query_string" =>
    let parts ← content.asRecord inlineFields {}
    return .inline parts.title parts.description parts.text parts.negated parts.disabled
  | "referenced" =>
    let parts ← content.asRecord storedFields {}
    return .stored parts.text parts.negated parts.disabled
  | other => Json.fail (.unknownVariant other)

end SearchFilter

end LogSearch
