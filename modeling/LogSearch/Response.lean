import LogSearch.Json.Shape

/-!
# Responses

What the backend answers: hits with their number, and aggregations.  The sources
of hits and the aggregations are kept as they come.
-/

namespace LogSearch

/-- One document found. -/
structure Hit where
  id : Option String := none
  index : Option String := none
  source : List (String × Json) := []
  deriving Inhabited

/-- The answer to a request. -/
structure Response where
  /-- The number of documents found, listed or not. -/
  total : Nat := 0
  /-- The documents listed. -/
  hits : List Hit := []
  /-- The aggregations computed. -/
  aggregations : List (String × Json) := []
  deriving Inhabited

namespace Response

/-- Read an object as the list of its fields. -/
def asFields : Json → Attempt (List (String × Json))
  | .obj fields => .ok fields
  | _ => Json.fail .wrongType

/-- Read the number of documents found: a bare number, or an object that holds it. -/
def readTotal (value : Json) : Attempt Nat :=
  match value with
  | .obj entries =>
    match entries.lookup "value", entries.lookup "relation" with
    | some count, none | some count, some .null | some count, some (.str _) =>
      match count.unsigned? with
      | some n => .ok n
      | none => Json.fail .noForm
    | _, _ => Json.fail .noForm
  | _ => match value.unsigned? with
    | some n => .ok n
    | none => Json.fail .noForm

/-- The fields of a hit. -/
def hitFields : List (Json.Field Hit) := [
  ⟨"_id", false, fun hit value => do return { hit with id := ← value.asOption Json.asText }⟩,
  ⟨"_index", false, fun hit value => do
    return { hit with index := ← value.asOption Json.asText }⟩,
  ⟨"_source", false, fun hit value => do return { hit with source := ← asFields value }⟩]

/-- The fields of the list of hits. -/
def hitsFields : List (Json.Field Response) := [
  ⟨"total", false, fun response value => do
    return { response with total := ← readTotal value }⟩,
  ⟨"hits", false, fun response value => do
    return { response with hits := ← value.asList fun hit => hit.asRecord hitFields {} }⟩]

/-- The fields of a response. -/
def fields : List (Json.Field Response) := [
  ⟨"hits", false, fun response value => value.asRecord hitsFields response⟩,
  ⟨"aggregations", false, fun response value => do
    return { response with aggregations := ← asFields value }⟩]

/-- Read a response. -/
def ofJson (value : Json) : Attempt Response := value.asRecord fields {}

end Response

end LogSearch
