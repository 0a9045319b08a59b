import LogSearch.Json.Shape

/-!
# The layout of the message index

The names of the fields that every message has, and how far into a result the
backend can be asked to go.
-/

namespace LogSearch

/-- Field names and limits of the message index. -/
structure IndexLayout where
  /-- The field of a message's timestamp. -/
  timestampField : String := "timestamp"
  /-- The field of the streams a message is in. -/
  streamsField : String := "streams"
  /-- The bound on the offset and the number of messages asked for together. -/
  maxResultWindow : UInt32 := 10000
  deriving DecidableEq, Inhabited

namespace IndexLayout

/-- The JSON form of a layout. -/
def toJson (layout : IndexLayout) : Json :=
  .obj [("timestamp_field", .str layout.timestampField),
    ("streams_field", .str layout.streamsField),
    ("max_result_window", .word layout.maxResultWindow)]

/-- The fields of a layout. -/
def fields : List (Json.Field IndexLayout) := [
  ⟨"timestamp_field", false, fun layout value => do
    return { layout with timestampField := ← value.asText }⟩,
  ⟨"streams_field", false, fun layout value => do
    return { layout with streamsField := ← value.asText }⟩,
  ⟨"max_result_window", false, fun layout value => do
    return { layout with maxResultWindow := ← value.asWord }⟩]

/-- Read a layout. -/
def ofJson (value : Json) : Attempt IndexLayout := value.asRecord fields {}

end IndexLayout

end LogSearch
