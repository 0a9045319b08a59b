import LogSearch.Kind
import LogSearch.Number.Layout
import LogSearch.Time.Timestamp

/-!
# What can go wrong

Every failure is a cause with the data it concerns.  The wording of a cause is
given once, by its `message`.
-/

namespace LogSearch

/-! ### Values of the wrong shape -/

/-- Why a JSON value cannot be read as what it should be. -/
inductive ShapeError
  /-- A field that has to be there is not. -/
  | missingField (name : String)
  /-- Two spellings of one field are both there. -/
  | duplicateField (name : String)
  /-- A text is none of the words allowed in its place. -/
  | unknownVariant (name : String)
  /-- The value is of another JSON type. -/
  | wrongType
  /-- A whole number lies outside the range allowed in its place. -/
  | outOfRange
  /-- An array has too few or too many items. -/
  | wrongLength
  /-- The value has none of the forms allowed in its place. -/
  | noForm
  /-- A text is no timestamp. -/
  | noTimestamp
  /-- A text is no JSON at all. -/
  | malformedText
  deriving DecidableEq

/-- The wording of a shape error. -/
def ShapeError.message : ShapeError → String
  | missingField name => "missing field \x60" ++ name ++ "\x60"
  | duplicateField name => "duplicate field \x60" ++ name ++ "\x60"
  | unknownVariant name => "unknown variant \x60" ++ name ++ "\x60"
  | wrongType => "invalid type"
  | outOfRange => "invalid value"
  | wrongLength => "invalid length"
  | noForm => "no matching variant"
  | noTimestamp => "invalid timestamp"
  | malformedText => "syntax"

/-! ### Values that break a rule -/

/-- A rule that a declaration breaks. -/
inductive Defect
  /-- A composite filter has no children. -/
  | emptyComposite
  /-- A filter of a leaf kind has children. -/
  | leafWithChildren (kind : FilterKind)
  /-- A filter of a leaf kind lacks its text, which belongs in the named field. -/
  | leafWithoutText (kind : FilterKind) (field : String)
  /-- A series lacks the field it is about. -/
  | seriesWithoutField (kind : SeriesKind)
  /-- A percentile series lacks its percentile. -/
  | percentileMissing
  /-- A percentile lies outside its range. -/
  | percentileOutOfRange (percentile : Binary64)
  /-- A message list asks for no messages. -/
  | noMessages
  /-- An event list asks for page zero. -/
  | pageZero
  /-- An event list has pages without events. -/
  | emptyPages
  /-- A row group of a pivot has no field or no buckets. -/
  | emptyRowGroup
  /-- Two series of a pivot have one id. -/
  | duplicateSeries (id : String)
  /-- Two search types of a query have one id. -/
  | duplicateSearchType (id : String)
  /-- A page of an event list starts beyond the largest offset. -/
  | pageOutOfReach (page perPage : UInt32) (id : String)
  deriving DecidableEq

namespace Defect

/-- The kind of thing that a defect is found in. -/
def subject : Defect → String
  | emptyComposite | leafWithChildren _ | leafWithoutText _ _ => "filter"
  | seriesWithoutField _ | percentileMissing | percentileOutOfRange _ => "series"
  | noMessages => "message list"
  | pageZero | emptyPages | pageOutOfReach _ _ _ => "event list"
  | emptyRowGroup | duplicateSeries _ => "pivot"
  | duplicateSearchType _ => "query"

/-- The rule that is broken, in words. -/
def reason : Defect → String
  | emptyComposite => "composite filters need at least one child"
  | leafWithChildren kind => kind.tag ++ " filter cannot have children"
  | leafWithoutText kind field => kind.tag ++ " filter requires '" ++ field ++ "'"
  | seriesWithoutField kind => kind.tag ++ " requires a field"
  | percentileMissing => "percentile requires a percentile value"
  | percentileOutOfRange percentile =>
    "percentile must be in (0, 100], got " ++ percentile.plainText
  | noMessages => "limit must be positive"
  | pageZero => "pages are numbered from 1"
  | emptyPages => "per_page must be positive"
  | emptyRowGroup => "row groups need at least one field and a positive limit"
  | duplicateSeries id => "duplicate series id '" ++ id ++ "'"
  | duplicateSearchType id => "duplicate search type id '" ++ id ++ "'"
  | pageOutOfReach page perPage id =>
    "page " ++ toString page.toNat ++ " of " ++ toString perPage.toNat ++ " events in '" ++ id
      ++ "' starts beyond the addressable result range"

/-- The wording of a defect. -/
def message (d : Defect) : String :=
  "invalid " ++ d.subject ++ ": " ++ d.reason

end Defect

/-- The widest window of a time range, in seconds: a thousand leap years. -/
def maxWindow : Nat := 1000 * 366 * 86400

/-- Why a time range is refused or cannot be resolved. -/
inductive WindowError
  /-- A relative range is negative. -/
  | negative (seconds : Int)
  /-- A window is wider than `maxWindow`. -/
  | tooWide (seconds : Nat)
  /-- An absolute range starts after it ends. -/
  | reversed (start stop : Instant)
  /-- A keyword is not understood. -/
  | unknownKeyword (text : String)
  /-- A keyword is to be read in another zone than universal time. -/
  | unknownZone (zone : String)
  /-- A window starts before the first instant that can be reached. -/
  | beforeFirst (stop : Instant)
  deriving DecidableEq

/-- The wording of a time range's failure. -/
def WindowError.message : WindowError → String
  | negative seconds => "relative range must not be negative, got " ++ toString seconds
  | tooWide seconds =>
    "window of " ++ toString seconds ++ " seconds exceeds the maximum of " ++ toString maxWindow
  | reversed start stop =>
    "absolute range starts after it ends (" ++ start.messageText ++ " > " ++ stop.messageText ++ ")"
  | unknownKeyword text => "unrecognized keyword '" ++ text ++ "'"
  | unknownZone zone => "unsupported timezone '" ++ zone ++ "'"
  | beforeFirst stop =>
    "window reaches before the earliest representable instant (" ++ stop.messageText ++ ")"

/-- Why a response does not fit the request it answers. -/
inductive ResponseError
  /-- The query has no search type of the id asked for. -/
  | noSearchType
  /-- The named aggregation has no list of buckets. -/
  | missingBuckets (aggregation : String)
  /-- A bucket of the named aggregation is no object. -/
  | bucketNotObject (aggregation : String)
  /-- The value of the named series is missing. -/
  | missingSeries (id : String)
  /-- The source of a hit is no event. -/
  | badEvent (hit : Option String) (error : ShapeError)
  deriving DecidableEq

/-- The wording of a response's failure. -/
def ResponseError.message : ResponseError → String
  | noSearchType => "no such search type in query"
  | missingBuckets aggregation => "missing buckets for '" ++ aggregation ++ "'"
  | bucketNotObject aggregation => "bucket of '" ++ aggregation ++ "' is not an object"
  | missingSeries id => "missing aggregation for series '" ++ id ++ "'"
  | badEvent hit error => "event " ++ hit.getD "<unknown>" ++ ": " ++ error.message

/-! ### All failures -/

/-- The closed sets of tags that a declaration can miss. -/
inductive TagSet
  | filter
  | searchType
  | series
  | queryText
  deriving DecidableEq

/-- The name of a set of tags. -/
def TagSet.name : TagSet → String
  | filter => "filter"
  | searchType => "search type"
  | series => "series"
  | queryText => "query"

/-- Why an operation of this library fails. -/
inductive SearchError
  /-- A JSON value has the wrong shape. -/
  | shape (error : ShapeError)
  /-- A declaration breaks a rule. -/
  | invalid (defect : Defect)
  /-- A tag is not of its closed set. -/
  | unknownTag (set : TagSet) (tag : String)
  /-- A time range is refused or cannot be resolved. -/
  | window (error : WindowError)
  /-- The look-up of stream categories failed. -/
  | lookupFailed (reason : String)
  /-- The check whether a stream may be read failed. -/
  | checkFailed (reason : String)
  /-- The query text refers to a parameter without a value. -/
  | unboundParameter (name : String)
  /-- No handler serves a kind of search type. -/
  | unsupported (kind : SearchKind)
  /-- A handler was given a search type of another kind. -/
  | wrongKind (expected actual : SearchKind)
  /-- A filter still names a category when a request is made of it. -/
  | unexpandedCategory (category : String)
  /-- A search filter still refers to one stored elsewhere when a request is made of it. -/
  | unloadedFilter (id : String)
  /-- The backend did not answer a request. -/
  | backendFailed (reason : String)
  /-- The response for a search type does not fit its request. -/
  | badResponse (searchType : String) (error : ResponseError)
  deriving DecidableEq

/-- The wording of a failure. -/
def SearchError.message : SearchError → String
  | shape error => error.message
  | invalid defect => defect.message
  | unknownTag set tag => "unknown " ++ set.name ++ " type '" ++ tag ++ "'"
  | window error => "invalid time range: " ++ error.message
  | lookupFailed reason => "stream category resolution failed: " ++ reason
  | checkFailed reason => "stream permission check failed: " ++ reason
  | unboundParameter name => "query references unbound parameter '" ++ name ++ "'"
  | unsupported kind => "unsupported search type '" ++ kind.tag ++ "'"
  | wrongKind expected actual =>
    "strategy for '" ++ expected.tag ++ "' received a '" ++ actual.tag ++ "' search type"
  | unexpandedCategory category =>
    "stream category '" ++ category ++ "' was not expanded before translation"
  | unloadedFilter id => "search filter '" ++ id ++ "' is referenced but was not loaded"
  | backendFailed reason => "backend request failed: " ++ reason
  | badResponse searchType error =>
    "malformed backend response for '" ++ searchType ++ "': " ++ error.message

/-- The result of an operation that can fail. -/
abbrev Attempt := Except SearchError

end LogSearch
