import LogSearch.Result

/-!
# Events from hits

The source of a hit in the event index is read as an event.  The streams of an
event may be listed under either of two names, but not under both.
-/

namespace LogSearch

namespace EventSummary

/-- The fields of an event as they are read. -/
structure Parts where
  id : String := ""
  streams : Option NameSet := none
  timestamp : Option String := none
  message : String := ""
  alert : Bool := false
  priority : Option Int := none
  definitionId : Option String := none
  key : Option String := none

/-- The field that lists the streams, under a given name; it fails if they are known already. -/
def streamsField (name : String) : Json.Field Parts :=
  ⟨name, false, fun parts value =>
    if parts.streams.isSome then Json.fail (.duplicateField "source_streams")
    else do return { parts with streams := some (← value.asNames) }⟩

/-- The fields of an event. -/
def fields : List (Json.Field Parts) := [
  ⟨"id", true, fun parts value => do return { parts with id := ← value.asText }⟩,
  streamsField "source_streams",
  streamsField "streams",
  ⟨"timestamp", false, fun parts value => do
    return { parts with timestamp := ← value.asOption Json.asText }⟩,
  ⟨"message", false, fun parts value => do return { parts with message := ← value.asText }⟩,
  ⟨"alert", false, fun parts value => do return { parts with alert := ← value.asBool }⟩,
  ⟨"priority", false, fun parts value => do
    return { parts with priority := ← value.asOption Json.asSigned }⟩,
  ⟨"event_definition_id", false, fun parts value => do
    return { parts with definitionId := ← value.asOption Json.asText }⟩,
  ⟨"key", false, fun parts value => do
    return { parts with key := ← value.asOption Json.asText }⟩]

/-- Read an event. -/
def ofJson (value : Json) : Attempt EventSummary := do
  let parts ← value.asRecord fields {}
  return {
    id := parts.id
    streams := parts.streams.getD ∅
    timestamp := parts.timestamp
    message := parts.message
    alert := parts.alert
    priority := parts.priority
    definitionId := parts.definitionId
    key := parts.key }

/-- Read the event that a hit holds; a failure names the hit and the search type. -/
def ofHit (searchType : String) (hit : Hit) : Attempt EventSummary :=
  match ofJson (.obj hit.source) with
  | .error (.shape error) => .error (.badResponse searchType (.badEvent hit.id error))
  | outcome => outcome

end EventSummary

end LogSearch
