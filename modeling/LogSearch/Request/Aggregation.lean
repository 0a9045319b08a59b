import LogSearch.IndexLayout
import LogSearch.Request.Body

/-!
# Aggregations of a pivot

A pivot asks for one level of buckets per grouping field, each inside the one
before, and for its metrics inside the innermost buckets.  Aggregations are
named by their places, so that nothing hangs on the ids of series: levels are
`agg-0`, `agg-1` and so on, series `series-0`, `series-1` and so on.
-/

namespace LogSearch

namespace Pivot

/-- The grouping fields of a pivot from the outermost inwards, each with its bucket limit. -/
def levels (pivot : Pivot) : List (String × UInt32) :=
  pivot.rowGroups.flatMap fun group => group.fields.map (·, group.limit)

/-- The name of the aggregation of a level. -/
def levelName (depth : Nat) : String := "agg-" ++ toString depth

/-- The name of the aggregation of a series. -/
def seriesName (index : Nat) : String := "series-" ++ toString index

/-- Whether the metrics are wanted over the whole result as well. -/
def wantsRollup (pivot : Pivot) : Bool :=
  pivot.rollup || pivot.levels.isEmpty

/-- The aggregation that computes a metric of a field. -/
def metricJson (layout : IndexLayout) (metric : Metric) (field : String) : Json :=
  let ofField (name : String) : Json := .obj [(name, .obj [("field", .str field)])]
  match metric with
  | .avg => ofField "avg"
  | .sum => ofField "sum"
  | .min => ofField "min"
  | .max => ofField "max"
  | .card => ofField "cardinality"
  | .stddev | .variance => ofField "extended_stats"
  | .latest =>
    .obj [("top_hits", .obj [
      ("_source", .obj [("includes", .texts [field])]),
      ("size", .nat 1),
      ("sort", .arr [SortKey.requestJson ⟨layout.timestampField, .desc⟩])])]

/-- The aggregation that computes a series; a plain count needs none. -/
def aggregation? (layout : IndexLayout) : SeriesFunction → Option Json
  | .count none => none
  | .count (some field) => some (.obj [("value_count", .obj [("field", .str field)])])
  | .metric metric field => some (metricJson layout metric field)
  | .percentile field rank =>
    some (.obj [("percentiles", .obj [("field", .str field), ("percents", .arr [.float rank])])])

/-- The aggregations of series, by names that count from a given place. -/
def metricsFrom (layout : IndexLayout) (index : Nat) : List Series → Keyed Json
  | [] => ∅
  | first :: rest =>
    let others := metricsFrom layout (index + 1) rest
    match aggregation? layout first.function with
    | none => others
    | some aggregation => others.insert (seriesName index) aggregation

/-- The aggregations of all series of a pivot. -/
def metrics (layout : IndexLayout) (pivot : Pivot) : Keyed Json :=
  metricsFrom layout 0 pivot.series

/-- One level of buckets with what is computed inside them. -/
def levelJson (field : String) (limit : UInt32) (inside : Keyed Json) : Json :=
  .obj <| Json.fieldWhen (!inside.isEmpty) "aggregations" (.keyed id inside)
    ++ [("terms", .obj [("field", .str field), ("size", .word limit)])]

/-- Levels of buckets inside each other, and the metrics inside the innermost. -/
def nested (metrics : Keyed Json) (depth : Nat) : List (String × UInt32) → Keyed Json
  | [] => metrics
  | (field, limit) :: rest =>
    Keyed.insert (levelName depth) (levelJson field limit (nested metrics (depth + 1) rest)) ∅

/-- All aggregations that a pivot asks for. -/
def aggregations (layout : IndexLayout) (pivot : Pivot) : Keyed Json :=
  let metrics := pivot.metrics layout
  let grouped := nested metrics 0 pivot.levels
  if pivot.wantsRollup then
    metrics.entries.foldl (fun table entry => table.insert entry.1 entry.2) grouped
  else grouped

end Pivot

end LogSearch
