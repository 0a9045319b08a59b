import LogSearch.Response
import LogSearch.SearchType

/-!
# Results

What a search type yields once its response has been read: messages, events, or
the rows of a pivot.
-/

namespace LogSearch

/-- What is known of an event. -/
structure EventSummary where
  id : String
  /-- The streams of the event's messages. -/
  streams : NameSet
  timestamp : Option String
  message : String
  /-- Whether the event is an alert. -/
  alert : Bool
  priority : Option Int
  definitionId : Option String
  key : Option String

/-- Where the values of a row come from. -/
inductive RowSource
  /-- An innermost bucket. -/
  | leaf
  /-- The whole result. -/
  | rollup
  deriving DecidableEq

/-- A row of a pivot. -/
structure PivotRow where
  /-- The keys of the buckets from the outermost inwards. -/
  key : List String
  /-- The values, each with the id of its series. -/
  values : List (String × Json)
  /-- Where the values come from. -/
  source : RowSource

/-- What a search type yields. -/
inductive ResultContent
  | messages (hits : List Hit)
  | events (events : List EventSummary)
  | pivot (rows : List PivotRow)

/-- The result of a search type. -/
structure SearchResult where
  /-- The id of the search type. -/
  id : String
  /-- The name of the search type. -/
  name : Option String
  /-- The number of documents found. -/
  total : Nat
  /-- What was found. -/
  content : ResultContent

/-! ### JSON -/

/-- The JSON form of a message: the document with what is known of its place. -/
def Hit.toJson (hit : Hit) : Json :=
  .obj <| Json.optionalField "id" .str hit.id ++ Json.optionalField "index" .str hit.index
    ++ [("message", .obj hit.source)]

/-- The JSON form of an event. -/
def EventSummary.toJson (event : EventSummary) : Json :=
  .obj [("id", .str event.id), ("source_streams", .names event.streams),
    ("timestamp", .optional .str event.timestamp), ("message", .str event.message),
    ("alert", .bool event.alert), ("priority", .optional .int event.priority),
    ("event_definition_id", .optional .str event.definitionId),
    ("key", .optional .str event.key)]

/-- The word for where the values of a row come from. -/
def RowSource.word : RowSource → String
  | leaf => "leaf"
  | rollup => "rollup"

/-- The JSON form of a row. -/
def PivotRow.toJson (row : PivotRow) : Json :=
  .obj [("key", .texts row.key),
    ("values", .arr (row.values.map fun entry =>
      .obj [("series", .str entry.1), ("value", entry.2)])),
    ("source", .str row.source.word)]

/-- The JSON form of a result. -/
def SearchResult.toJson (result : SearchResult) : Json :=
  let head (kind : SearchKind) : List (String × Json) :=
    [("type", .str kind.tag), ("id", .str result.id)] ++ Json.optionalField "name" .str result.name
  match result.content with
  | .messages hits =>
    .obj <| head .messages
      ++ [("messages", .arr (hits.map Hit.toJson)), ("total_results", .nat result.total)]
  | .events events =>
    .obj <| head .events
      ++ [("events", .arr (events.map EventSummary.toJson)), ("total_results", .nat result.total)]
  | .pivot rows =>
    .obj <| head .pivot
      ++ [("rows", .arr (rows.map PivotRow.toJson)), ("total", .nat result.total)]

end LogSearch
