import LogSearch.Json.Shape

/-!
# Attribute filters

An attribute filter restricts one attribute of events to some values, or to all
others.  It is carried out as a text of the query language in which every value
is a quoted phrase, so that no value can be taken for a part of the language.
-/

namespace LogSearch

/-- A restriction of an attribute to some values. -/
structure AttributeFilter where
  field : String
  values : List String := []
  negated : Bool := false
  deriving DecidableEq

namespace AttributeFilter

/-- A value as it stands inside a quoted phrase of the query language. -/
def escapePhrase (value : List Char) : List Char :=
  value.flatMap fun c => if c = '\\' ∨ c = '"' then ['\\', c] else [c]

/-- The query text that asks for one value. -/
def phrase (field value : String) : String :=
  field ++ ":\"" ++ String.ofList (escapePhrase value.toList) ++ "\""

/-- The query texts that together ask for what the filter asks for: none if it has no values. -/
def clauses (filter : AttributeFilter) : List String :=
  let clause := match filter.values.map (phrase filter.field) with
    | [] => none
    | [only] => some only
    | phrases => some ("(" ++ " OR ".intercalate phrases ++ ")")
  match clause with
  | none => []
  | some clause => [if filter.negated then "NOT " ++ clause else clause]

/-- The JSON form of an attribute filter. -/
def toJson (filter : AttributeFilter) : Json :=
  .obj [("field", .str filter.field), ("value", .texts filter.values),
    ("negation", .bool filter.negated)]

/-- The fields of an attribute filter. -/
def fields : List (Json.Field AttributeFilter) := [
  ⟨"field", true, fun filter value => do return { filter with field := ← value.asText }⟩,
  ⟨"value", false, fun filter value => do
    return { filter with values := ← value.asList Json.asText }⟩,
  ⟨"negation", false, fun filter value => do return { filter with negated := ← value.asBool }⟩]

/-- Read an attribute filter. -/
def ofJson (value : Json) : Attempt AttributeFilter := value.asRecord fields ⟨"", [], false⟩

end AttributeFilter

end LogSearch
