import LogSearch.Request.Aggregation
import LogSearch.Request.Context

/-!
# Requests of search types

The request of a search type is the base of its query with the restrictions of
the search type added, and with the sort, the paging or the aggregations it
asks for.  Events can only be filtered and sorted by a fixed set of attributes;
filters on others are dropped and a sort by another is replaced.
-/

namespace LogSearch

/-- The body with the restriction of a search type to its own streams, if it has one. -/
def SearchBody.restrictToOwn (layout : IndexLayout) (search : SearchType) (body : SearchBody) :
    SearchBody :=
  if search.streams.isEmpty then body
  else { body with
    query := body.query.addFilter (Clause.terms layout.streamsField search.streams.toList) }

namespace MessageList

/-- The number of messages to ask for: the limit, cut off at the end of the result window. -/
def requestSize (list : MessageList) (window : UInt32) : UInt32 :=
  if window.toNat < min (list.offset.toNat + list.limit.toNat) maxUnsigned32 then
    (window.toNat - list.offset.toNat).toUInt32
  else list.limit

/-- The keys to sort messages by: the newest first unless something else is asked for. -/
def requestSort (list : MessageList) (layout : IndexLayout) : List SortKey :=
  if list.sort.isEmpty then [⟨layout.timestampField, .desc⟩] else list.sort

/-- The request for a list of messages. -/
def request (context : QueryContext) (search : SearchType) (list : MessageList) : SearchBody :=
  { context.base.restrictToOwn context.layout search with
    sort := list.requestSort context.layout
    start := some list.offset
    size := some (list.requestSize context.layout.maxResultWindow) }

end MessageList

namespace EventList

/-- The attributes of events that can be filtered and sorted by. -/
def knownAttributes : List String :=
  ["alert", "event_definition_id", "key", "priority", "timestamp"]

/-- The field of an event that lists the streams of its messages. -/
def sourceStreamsField : String := "source_streams"

/-- The number of events to ask for when they are not paged. -/
def unpagedSize : UInt32 := 10000

/-- The streams that events are restricted to: those of the search type, or else of the query. -/
def effectiveStreams (context : QueryContext) (search : SearchType) : NameSet :=
  if search.streams.isEmpty then context.streams else search.streams

/-- The query texts of the attribute filters on known attributes. -/
def attributeClauses (list : EventList) : List String :=
  list.attributes.flatMap fun filter =>
    if filter.field ∈ knownAttributes then filter.clauses else []

/-- The key to sort events by: the first one if it is a known attribute, else the newest first. -/
def requestSort (list : EventList) : SortKey :=
  match list.sort.head? with
  | some key => if key.field ∈ knownAttributes then key else ⟨"timestamp", .desc⟩
  | none => ⟨"timestamp", .desc⟩

/-- The place of the first event of a page, which must be a 32-bit number. -/
def pageStart (page perPage : UInt32) (id : String) : Attempt UInt32 :=
  let start := (page.toNat - 1) * perPage.toNat
  if start ≤ maxUnsigned32 then .ok start.toUInt32
  else .error (.invalid (.pageOutOfReach page perPage id))

/-- The conditions on events. -/
def conditions (context : QueryContext) (search : SearchType) (list : EventList) : BoolQuery :=
  let streams := effectiveStreams context search
  let base := context.base.query
  let restricted :=
    if streams.isEmpty then base
    else base.addMust (Clause.terms sourceStreamsField streams.toList)
  list.attributeClauses.foldl
    (fun query text => query.addFilter (Clause.queryString text)) restricted

/-- The request for a list of events. -/
def request (context : QueryContext) (search : SearchType) (list : EventList) :
    Attempt SearchBody :=
  let body : SearchBody :=
    { context.base with query := list.conditions context search, sort := [list.requestSort] }
  match list.page with
  | none => .ok { body with size := some unpagedSize }
  | some page => do
    let start ← pageStart page list.pageSize search.id
    return { body with start := some start, size := some list.pageSize }

end EventList

namespace Pivot

/-- The request for a pivot, which wants no documents. -/
def request (context : QueryContext) (search : SearchType) (pivot : Pivot) : SearchBody :=
  { context.base.restrictToOwn context.layout search with
    aggregations := pivot.aggregations context.layout
    size := some 0 }

end Pivot

namespace SearchType

/-- The request for a search type. -/
def request (context : QueryContext) (search : SearchType) : Attempt SearchBody :=
  match search.detail with
  | .messages list => .ok (list.request context search)
  | .events list => list.request context search
  | .pivot pivot => .ok (pivot.request context search)

end SearchType

end LogSearch
