import LogSearch.Attribute
import LogSearch.Number.Word
import LogSearch.Series

/-!
# Search types

A query asks for one or more results, each described by a search type: a list of
messages, a list of events, or a pivot of aggregated values.  Message lists are
paged by offset and limit, event lists by page and page size, and pivots not at
all.

`SearchType.check` refuses the search types that make no sense; everything that
is read or built goes through it.
-/

namespace LogSearch

/-! ### Sorting -/

/-- The direction of a sort. -/
inductive Direction
  | asc
  | desc
  deriving DecidableEq, Inhabited

namespace Direction

/-- The word for a direction. -/
def word : Direction → String
  | asc => "asc"
  | desc => "desc"

/-- The direction that a word stands for. -/
def ofWord? (word : String) : Option Direction :=
  [asc, desc].find? fun direction => direction.word == word

end Direction

/-- A field to sort by, and the direction. -/
structure SortKey where
  field : String
  direction : Direction := .desc
  deriving DecidableEq

/-! ### The three variants -/

/-- A list of messages. -/
structure MessageList where
  limit : UInt32 := 150
  offset : UInt32 := 0
  sort : List SortKey := []
  deriving DecidableEq

/-- A list of events. -/
structure EventList where
  attributes : List AttributeFilter := []
  page : Option UInt32 := none
  perPage : Option UInt32 := none
  sort : List SortKey := []
  deriving DecidableEq

/-- The size of a page of events when none is declared. -/
def EventList.defaultPerPage : UInt32 := 10

/-- The size of a page of events. -/
def EventList.pageSize (list : EventList) : UInt32 :=
  list.perPage.getD defaultPerPage

/-- A grouping of rows by the values of some fields, at most so many for each. -/
structure RowGroup where
  fields : List String
  limit : UInt32 := 15
  deriving DecidableEq

/-- A table of aggregated values. -/
structure Pivot where
  rowGroups : List RowGroup := []
  series : List Series := []
  rollup : Bool := true
  deriving DecidableEq

/-- What is particular to a search type. -/
inductive SearchDetail
  | messages (list : MessageList)
  | events (list : EventList)
  | pivot (pivot : Pivot)
  deriving DecidableEq

/-- One result that a query asks for. -/
structure SearchType where
  /-- The id of the search type; empty until the query gives it one. -/
  id : String := ""
  /-- The name it is shown under. -/
  name : Option String := none
  /-- The streams it is restricted to; none stands for those of the query. -/
  streams : NameSet := ∅
  /-- What is particular to it. -/
  detail : SearchDetail
  deriving DecidableEq

/-- A page and its size. -/
structure Page where
  page : UInt32
  perPage : UInt32
  deriving DecidableEq

/-- A change of paging that a request asks for. -/
structure PagingOverride where
  offset : Option UInt32 := none
  limit : Option UInt32 := none
  deriving DecidableEq, Inhabited

/-- The limit that a change of paging asks for; zero asks for none. -/
def PagingOverride.usableLimit? (paging : PagingOverride) : Option UInt32 :=
  paging.limit.filter (0 < ·)

namespace SearchType

/-! ### Checks -/

/-- Refuse a search type that makes no sense. -/
def check (search : SearchType) : Attempt SearchType :=
  match search.detail with
  | .messages list =>
    if list.limit = 0 then .error (.invalid .noMessages) else .ok search
  | .events list =>
    if list.page = some 0 then .error (.invalid .pageZero)
    else if list.perPage = some 0 then .error (.invalid .emptyPages)
    else .ok search
  | .pivot pivot =>
    if pivot.rowGroups.any fun group => group.fields.isEmpty || group.limit == 0 then
      .error (.invalid .emptyRowGroup)
    else match firstRepeated? [] (pivot.series.map Series.id) with
      | some id => .error (.invalid (.duplicateSeries id))
      | none => .ok search

/-! ### Looking at search types -/

/-- The kind of a search type. -/
def kind (search : SearchType) : SearchKind :=
  match search.detail with
  | .messages _ => .messages
  | .events _ => .events
  | .pivot _ => .pivot

/-- The attribute filters of a search type; only event lists have any. -/
def attributes (search : SearchType) : List AttributeFilter :=
  match search.detail with
  | .events list => list.attributes
  | _ => []

/-- The page that contains an offset, counted from one and not beyond the largest page. -/
def pageOf (offset perPage : UInt32) : UInt32 :=
  (min (offset.toNat / perPage.toNat + 1) maxUnsigned32).toUInt32

/-- The page that a search type shows, if it is paged. -/
def page? (search : SearchType) : Option Page :=
  match search.detail with
  | .messages list => some ⟨pageOf list.offset (max list.limit 1), list.limit⟩
  | .events list => list.page.map fun page => ⟨page, list.pageSize⟩
  | .pivot _ => none

/-! ### Changes -/

/-- The same search type under another id. -/
def withId (search : SearchType) (id : String) : SearchType := { search with id }

/-- The same search type restricted to other streams. -/
def withStreams (search : SearchType) (streams : NameSet) : SearchType := { search with streams }

/-- A message list with a change of paging: offset and limit are taken as they are. -/
def repageMessages (paging : PagingOverride) (list : MessageList) : MessageList :=
  { list with
    limit := paging.usableLimit?.getD list.limit
    offset := paging.offset.getD list.offset }

/-- An event list with a change of paging: a limit becomes the page size, and an offset the page
that contains it. -/
def repageEvents (paging : PagingOverride) (list : EventList) : EventList :=
  let resized := { list with
    perPage := paging.usableLimit?.or list.perPage }
  match paging.offset with
  | none => resized
  | some offset => { resized with page := some (pageOf offset resized.pageSize) }

/-- A search type with a change of paging; pivots are not paged and stay as they are. -/
def repage (paging : PagingOverride) (search : SearchType) : SearchType :=
  match search.detail with
  | .messages list => { search with detail := .messages (repageMessages paging list) }
  | .events list => { search with detail := .events (repageEvents paging list) }
  | .pivot _ => search

end SearchType

end LogSearch
