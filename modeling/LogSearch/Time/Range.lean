import LogSearch.Time.Keyword
import LogSearch.Json.Shape

/-!
# Time ranges

A search covers the last so many seconds, an interval between two instants, or
the window that a keyword names.  The constructors with a question mark check a
range, so that resolving it later can only fail where a window would reach
before the first instant there is.
-/

namespace LogSearch

/-- The span of time that a search covers. -/
inductive TimeRange
  /-- The last so many seconds; none stands for all time up to now. -/
  | relative (seconds : Nat)
  /-- From one instant to another. -/
  | absolute (start stop : Instant)
  /-- The window that a keyword names, with the zone it is to be read in. -/
  | keyword (text : String) (zone : Option String)
  deriving DecidableEq

namespace TimeRange

/-- Fail because of a time range. -/
def refuse {α : Type} (error : WindowError) : Attempt α :=
  .error (.window error)

/-- A result about windows as a result of a search operation. -/
def lift {α : Type} (result : Except WindowError α) : Attempt α :=
  result.mapError .window

/-- The range of a search that declares none: the last five minutes. -/
def default : TimeRange := .relative 300

instance : Inhabited TimeRange := ⟨default⟩

/-- The last so many seconds. -/
def relative? (seconds : Int) : Attempt TimeRange :=
  if seconds < 0 then refuse (.negative seconds)
  else (lift (Keyword.checkWindow seconds.toNat)).map .relative

/-- From one instant to another that is not before it. -/
def absolute? (start stop : Instant) : Attempt TimeRange :=
  if start ≤ stop then .ok (.absolute start stop) else refuse (.reversed start stop)

/-- The names of universal time. -/
def universalZones : List String := ["UTC", "Etc/UTC", "Z"]

/-- The window of a keyword, read in universal time. -/
def keyword? (text : String) (zone : Option String) : Attempt TimeRange := do
  let _ ← lift (Keyword.read text)
  match zone with
  | none => return .keyword text none
  | some zone =>
    if zone ∈ universalZones then return .keyword text (some zone)
    else refuse (.unknownZone zone)

/-- The tags of ranges. -/
def tags : List String := ["relative", "absolute", "keyword"]

/-- The tag of a range. -/
def tag : TimeRange → String
  | .relative _ => "relative"
  | .absolute _ _ => "absolute"
  | .keyword _ _ => "keyword"

/-- The instant a window's width before another. -/
def startBefore (stop : Instant) (seconds : Nat) : Attempt Instant :=
  match stop.back? seconds with
  | some start => .ok start
  | none => refuse (.beforeFirst stop)

/-- The first and last instant of a range at a given moment. -/
def resolve (now : Instant) : TimeRange → Attempt (Instant × Instant)
  | .relative 0 => .ok (.epoch, now)
  | .relative seconds => do
    let seconds ← lift (Keyword.checkWindow seconds)
    return (← startBefore now seconds, now)
  | .absolute start stop => .ok (start, stop)
  | .keyword text _ => do
    match ← lift (Keyword.read text) with
    | .today => return (now.midnight, now)
    | .yesterday => return (← startBefore now.midnight 86400, now.midnight)
    | .last seconds => return (← startBefore now seconds, now)

/-! ### JSON -/

/-- The JSON form of a range. -/
def toJson : TimeRange → Json
  | .relative seconds => .obj [("type", .str "relative"), ("range", .nat seconds)]
  | .absolute start stop =>
    .obj [("type", .str "absolute"), ("from", .str start.timestamp), ("to", .str stop.timestamp)]
  | .keyword text zone =>
    .obj <| [("type", .str "keyword"), ("keyword", .str text)]
      ++ Json.optionalField "timezone" .str zone

/-- The fields of a relative range. -/
def relativeFields : List (Json.Field Int) :=
  [⟨"range", true, fun _ value => value.asSigned⟩]

/-- The fields of an absolute range. -/
def absoluteFields : List (Json.Field (Instant × Instant)) := [
  ⟨"from", true, fun ends value => do return (← value.asInstant, ends.2)⟩,
  ⟨"to", true, fun ends value => do return (ends.1, ← value.asInstant)⟩]

/-- The fields of a keyword range. -/
def keywordFields : List (Json.Field (String × Option String)) := [
  ⟨"keyword", true, fun parts value => do return (← value.asText, parts.2)⟩,
  ⟨"timezone", false, fun parts value => do return (parts.1, ← value.asOption Json.asText)⟩]

/-- Read a range. -/
def ofJson (value : Json) : Attempt TimeRange := do
  let (tag, content) ← value.splitTag
  match tag with
  | "relative" => relative? (← content.asRecord relativeFields 0)
  | "absolute" =>
    let (start, stop) ← content.asRecord absoluteFields (.epoch, .epoch)
    absolute? start stop
  | "keyword" =>
    let (text, zone) ← content.asRecord keywordFields ("", none)
    keyword? text zone
  | other => Json.fail (.unknownVariant other)

end TimeRange

end LogSearch
