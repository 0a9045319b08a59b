import LogSearch.SearchType

/-!
# Search types as JSON

A search type is written as its tag, what all variants share, and the fields of
its variant.  The fields of all variants are read before the tag is looked at,
so a faulty field is reported even where its variant would not use it.
-/

namespace LogSearch

/-! ### Parts of search types -/

/-- Read a direction. -/
def Direction.ofJson (value : Json) : Attempt Direction := value.asWordOf ofWord?

namespace SortKey

/-- The JSON form of a sort key. -/
def toJson (key : SortKey) : Json :=
  .obj [("field", .str key.field), ("direction", .str key.direction.word)]

/-- The fields of a sort key. -/
def fields : List (Json.Field SortKey) := [
  ⟨"field", true, fun key value => do return { key with field := ← value.asText }⟩,
  ⟨"direction", false, fun key value => do
    return { key with direction := ← Direction.ofJson value }⟩]

/-- Read a sort key. -/
def ofJson (value : Json) : Attempt SortKey := value.asRecord fields ⟨"", .desc⟩

end SortKey

namespace RowGroup

/-- The JSON form of a row group. -/
def toJson (group : RowGroup) : Json :=
  .obj [("fields", .texts group.fields), ("limit", .word group.limit)]

/-- The fields of a row group. -/
def parts : List (Json.Field RowGroup) := [
  ⟨"fields", true, fun group value => do
    return { group with fields := ← value.asList Json.asText }⟩,
  ⟨"limit", false, fun group value => do return { group with limit := ← value.asWord }⟩]

/-- Read a row group. -/
def ofJson (value : Json) : Attempt RowGroup := value.asRecord parts ⟨[], 15⟩

end RowGroup

namespace PagingOverride

/-- The JSON form of a change of paging. -/
def toJson (paging : PagingOverride) : Json :=
  .obj <| Json.optionalField "offset" .word paging.offset
    ++ Json.optionalField "limit" .word paging.limit

/-- The fields of a change of paging. -/
def fields : List (Json.Field PagingOverride) := [
  ⟨"offset", false, fun paging value => do
    return { paging with offset := ← value.asOption Json.asWord }⟩,
  ⟨"limit", false, fun paging value => do
    return { paging with limit := ← value.asOption Json.asWord }⟩]

/-- Read a change of paging. -/
def ofJson (value : Json) : Attempt PagingOverride := value.asRecord fields {}

end PagingOverride

/-! ### Search types -/

namespace SearchType

/-- The fields that are particular to a variant. -/
def detailFields : SearchDetail → List (String × Json)
  | .messages list =>
    [("limit", .word list.limit), ("offset", .word list.offset)]
      ++ Json.fieldWhen (!list.sort.isEmpty) "sort" (.arr (list.sort.map SortKey.toJson))
  | .events list =>
    Json.fieldWhen (!list.attributes.isEmpty) "attributes"
        (.arr (list.attributes.map AttributeFilter.toJson))
      ++ Json.optionalField "page" .word list.page
      ++ Json.optionalField "per_page" .word list.perPage
      ++ Json.fieldWhen (!list.sort.isEmpty) "sort" (.arr (list.sort.map SortKey.toJson))
  | .pivot pivot =>
    [("row_groups", .arr (pivot.rowGroups.map RowGroup.toJson)),
      ("series", .arr (pivot.series.map Series.toJson)), ("rollup", .bool pivot.rollup)]

/-- The JSON form of a search type. -/
def toJson (search : SearchType) : Json :=
  .obj <| [("type", .str search.kind.tag), ("id", .str search.id)]
    ++ Json.optionalField "name" .str search.name ++ [("streams", .names search.streams)]
    ++ detailFields search.detail

/-- The fields of all variants as they are read. -/
structure Parts where
  tag : String := ""
  id : Option String := none
  name : Option String := none
  streams : NameSet := ∅
  limit : Option UInt32 := none
  offset : Option UInt32 := none
  sort : List SortKey := []
  attributes : List AttributeFilter := []
  page : Option UInt32 := none
  perPage : Option UInt32 := none
  rowGroups : List RowGroup := []
  series : List Series := []
  rollup : Option Bool := none

/-- The fields of all variants. -/
def fields : List (Json.Field Parts) := [
  ⟨"type", true, fun parts value => do return { parts with tag := ← value.asText }⟩,
  ⟨"id", false, fun parts value => do return { parts with id := ← value.asOption Json.asText }⟩,
  ⟨"name", false, fun parts value => do
    return { parts with name := ← value.asOption Json.asText }⟩,
  ⟨"streams", false, fun parts value => do return { parts with streams := ← value.asNames }⟩,
  ⟨"limit", false, fun parts value => do
    return { parts with limit := ← value.asOption Json.asWord }⟩,
  ⟨"offset", false, fun parts value => do
    return { parts with offset := ← value.asOption Json.asWord }⟩,
  ⟨"sort", false, fun parts value => do
    return { parts with sort := ← value.asList SortKey.ofJson }⟩,
  ⟨"attributes", false, fun parts value => do
    return { parts with attributes := ← value.asList AttributeFilter.ofJson }⟩,
  ⟨"page", false, fun parts value => do
    return { parts with page := ← value.asOption Json.asWord }⟩,
  ⟨"per_page", false, fun parts value => do
    return { parts with perPage := ← value.asOption Json.asWord }⟩,
  ⟨"row_groups", false, fun parts value => do
    return { parts with rowGroups := ← value.asList RowGroup.ofJson }⟩,
  ⟨"series", false, fun parts value => do
    return { parts with series := ← value.asList Series.ofJson }⟩,
  ⟨"rollup", false, fun parts value => do
    return { parts with rollup := ← value.asOption Json.asBool }⟩]

/-- The variant of a kind that the fields describe; fields of other variants are not looked at. -/
def detailOf (parts : Parts) : SearchKind → SearchDetail
  | .messages => .messages
    { limit := parts.limit.getD 150, offset := parts.offset.getD 0, sort := parts.sort }
  | .events => .events
    { attributes := parts.attributes, page := parts.page, perPage := parts.perPage,
      sort := parts.sort }
  | .pivot => .pivot
    { rowGroups := parts.rowGroups, series := parts.series, rollup := parts.rollup.getD true }

/-- Read a search type. -/
def ofJson (value : Json) : Attempt SearchType := do
  let parts ← value.asRecord fields {}
  match SearchKind.ofTag? parts.tag with
  | none => .error (.unknownTag .searchType parts.tag)
  | some kind =>
    check
      { id := parts.id.getD "", name := parts.name, streams := parts.streams,
        detail := detailOf parts kind }

end SearchType

end LogSearch
