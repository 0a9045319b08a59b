import LogSearch.Json.Shape

/-!
# Series

A series is one column of a pivot: a count, a metric of a field, or a percentile
of a field.  Its id is the one it declares or else the text of its function.
-/

namespace LogSearch

/-- What a series computes. -/
inductive SeriesFunction
  /-- The number of documents, or of those with a field. -/
  | count (field : Option String)
  /-- A metric of a field. -/
  | metric (metric : Metric) (field : String)
  /-- A percentile of a field. -/
  | percentile (field : String) (rank : Binary64)
  deriving DecidableEq

namespace SeriesFunction

/-- The kind of a function. -/
def kind : SeriesFunction → SeriesKind
  | .count _ => .count
  | .metric m _ => .metric m
  | .percentile _ _ => .percentile

/-- The field that a function is about. -/
def field? : SeriesFunction → Option String
  | .count field => field
  | .metric _ field | .percentile field _ => some field

/-- The text of a function, which is also the id of a series that declares none. -/
def literal : SeriesFunction → String
  | .percentile field rank => "percentile(" ++ field ++ "," ++ rank.plainText ++ ")"
  | function => function.kind.tag ++ "(" ++ function.field?.getD "" ++ ")"

end SeriesFunction

/-- One column of a pivot. -/
structure Series where
  /-- The id of the series. -/
  id : String
  /-- The unit its values are shown in. -/
  unit : Option String
  /-- What it computes. -/
  function : SeriesFunction
  deriving DecidableEq

/-- What a series is declared with, before it is known whether that makes a series. -/
structure SeriesDraft where
  kind : SeriesKind
  id : Option String := none
  field : Option String := none
  unit : Option String := none
  percentile : Option Binary64 := none

namespace SeriesDraft

/-- The declared field, unless it is blank. -/
def usableField (draft : SeriesDraft) : Option String :=
  draft.field.filter fun field => !Text.isBlankText field

/-- The declared field, which must not be missing or blank. -/
def requireField (draft : SeriesDraft) : Attempt String :=
  match draft.usableField with
  | some field => .ok field
  | none => .error (.invalid (.seriesWithoutField draft.kind))

/-- Whether a percentile is above zero and at most a hundred.

Positive numbers are ordered like their words, and the words of negative and
undefined numbers come after that of a hundred.
-/
def isPercentile (x : Binary64) : Bool :=
  0 < x.bits.toNat && x.bits.toNat ≤ (Binary64.ofInt 100).bits.toNat

/-- The function that a draft declares. -/
def function (draft : SeriesDraft) : Attempt SeriesFunction :=
  match draft.kind with
  | .count => .ok (.count draft.usableField)
  | .metric m => draft.requireField.map (.metric m)
  | .percentile =>
    match draft.percentile with
    | none => .error (.invalid .percentileMissing)
    | some rank =>
      if isPercentile rank then draft.requireField.map (.percentile · rank)
      else .error (.invalid (.percentileOutOfRange rank))

/-- The series that a draft declares.  An empty id counts as none. -/
def build (draft : SeriesDraft) : Attempt Series := do
  let function ← draft.function
  let id := match draft.id with
    | some id => if id.isEmpty then function.literal else id
    | none => function.literal
  return ⟨id, draft.unit, function⟩

/-- The empty draft of the kind with a given tag. -/
def ofTag (tag : String) : Attempt SeriesDraft :=
  match SeriesKind.ofTag? tag with
  | some kind => .ok { kind }
  | none => .error (.unknownTag .series tag)

end SeriesDraft

namespace Series

/-- The same series under another id. -/
def withId (series : Series) (id : String) : Series := { series with id }

/-! ### JSON -/

/-- The fields that say what a series computes. -/
def functionFields (function : SeriesFunction) : List (String × Json) :=
  [("type", .str function.kind.tag)] ++ Json.optionalField "field" .str function.field?
    ++ match function with
      | .percentile _ rank => [("percentile", .float rank)]
      | _ => []

/-- The JSON form of a series. -/
def toJson (series : Series) : Json :=
  .obj <| [("id", .str series.id)] ++ Json.optionalField "unit" .str series.unit
    ++ functionFields series.function

/-- The fields of a series as they are read. -/
structure Parts where
  tag : String := ""
  id : Option String := none
  field : Option String := none
  unit : Option String := none
  percentile : Option Binary64 := none

/-- The fields of a series. -/
def fields : List (Json.Field Parts) := [
  ⟨"type", true, fun parts value => do return { parts with tag := ← value.asText }⟩,
  ⟨"id", false, fun parts value => do return { parts with id := ← value.asOption Json.asText }⟩,
  ⟨"field", false, fun parts value => do
    return { parts with field := ← value.asOption Json.asText }⟩,
  ⟨"unit", false, fun parts value => do
    return { parts with unit := ← value.asOption Json.asText }⟩,
  ⟨"percentile", false, fun parts value => do
    return { parts with percentile := ← value.asOption Json.asNumber }⟩]

/-- Read a series. -/
def ofJson (value : Json) : Attempt Series := do
  let parts ← value.asRecord fields {}
  let draft ← SeriesDraft.ofTag parts.tag
  SeriesDraft.build
    { draft with id := parts.id, field := parts.field, unit := parts.unit,
                 percentile := parts.percentile }

end Series

end LogSearch
