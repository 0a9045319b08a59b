/-!
# Kinds and their tags

Filters, search types and series metrics each come in a closed set of kinds.
Each kind has one tag, the text that stands for it in declarations.
-/

namespace LogSearch

/-- The kinds of filter nodes. -/
inductive FilterKind
  | and
  | or
  | stream
  | streamCategory
  | queryString
  deriving DecidableEq, Inhabited

namespace FilterKind

/-- The tag of a filter kind. -/
def tag : FilterKind → String
  | and => "and"
  | or => "or"
  | stream => "stream"
  | streamCategory => "stream_category"
  | queryString => "query_string"

/-- All filter kinds. -/
def all : List FilterKind := [and, or, stream, streamCategory, queryString]

/-- The filter kind with a given tag. -/
def ofTag? (tag : String) : Option FilterKind :=
  all.find? fun kind => kind.tag == tag

theorem ofTag?_tag (kind : FilterKind) : ofTag? kind.tag = some kind := by
  cases kind <;> decide

end FilterKind

/-- The kinds of search types. -/
inductive SearchKind
  | messages
  | events
  | pivot
  deriving DecidableEq, Inhabited

namespace SearchKind

/-- The tag of a search kind. -/
def tag : SearchKind → String
  | messages => "messages"
  | events => "events"
  | pivot => "pivot"

/-- All search kinds, in the order in which they are listed. -/
def all : List SearchKind := [messages, events, pivot]

/-- The search kind with a given tag. -/
def ofTag? (tag : String) : Option SearchKind :=
  all.find? fun kind => kind.tag == tag

theorem ofTag?_tag (kind : SearchKind) : ofTag? kind.tag = some kind := by
  cases kind <;> decide

end SearchKind

/-- The metrics that a series can take of one field. -/
inductive Metric
  | latest
  | avg
  | sum
  | min
  | max
  | card
  | stddev
  | variance
  deriving DecidableEq, Inhabited

namespace Metric

/-- The tag of a metric. -/
def tag : Metric → String
  | latest => "latest"
  | avg => "avg"
  | sum => "sum"
  | min => "min"
  | max => "max"
  | card => "card"
  | stddev => "stddev"
  | variance => "variance"

/-- All metrics. -/
def all : List Metric := [latest, avg, sum, min, max, card, stddev, variance]

end Metric

/-- The kinds of series: a count, a metric of a field, or a percentile of a field. -/
inductive SeriesKind
  | count
  | metric (metric : Metric)
  | percentile
  deriving DecidableEq, Inhabited

namespace SeriesKind

/-- The tag of a series kind. -/
def tag : SeriesKind → String
  | count => "count"
  | metric m => m.tag
  | percentile => "percentile"

/-- All series kinds. -/
def all : List SeriesKind := [count] ++ Metric.all.map metric ++ [percentile]

/-- The series kind with a given tag. -/
def ofTag? (tag : String) : Option SeriesKind :=
  all.find? fun kind => kind.tag == tag

theorem ofTag?_tag (kind : SeriesKind) : ofTag? kind.tag = some kind := by
  cases kind with
  | metric m => cases m <;> decide
  | _ => decide

end SeriesKind

end LogSearch
