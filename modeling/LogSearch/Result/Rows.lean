import LogSearch.Json.Writer
import LogSearch.Request.Aggregation
import LogSearch.Result

/-!
# Rows from aggregations

The buckets in a response are walked level by level.  Every bucket of the
innermost level becomes a row with the keys of the buckets around it, and the
whole result becomes one more row where the pivot wants a rollup.
-/

namespace LogSearch

namespace Pivot

/-- Fail because the response for a search type does not fit. -/
def misfit {α : Type} (searchType : String) (error : ResponseError) : Attempt α :=
  .error (.badResponse searchType error)

/-- The text of a bucket's key: the one meant for display if there is one. -/
def bucketKey (bucket : List (String × Json)) : String :=
  match (bucket.lookup "key_as_string").or (bucket.lookup "key") with
  | some (.str text) => text
  | some value => value.compact
  | none => ""

/-- The value of a series in the aggregation that computes it. -/
def metricValue (function : SeriesFunction) (aggregation : Json) : Json :=
  match function with
  | .metric .stddev _ => aggregation.field "std_deviation"
  | .metric .variance _ => aggregation.field "variance"
  | .metric .latest field =>
    ((((aggregation.field "hits").field "hits").item 0).field "_source").field field
  | .percentile _ _ => (aggregation.field "values").firstField
  | _ => aggregation.field "value"

/-- The values of series in a bucket or in the whole result, their places counted from a given
one.  A plain count is the given number of documents. -/
def valuesFrom (searchType : String) (aggregations : List (String × Json)) (documents : Nat)
    (index : Nat) : List Series → Attempt (List (String × Json))
  | [] => .ok []
  | first :: rest => do
    let value ← match first.function with
      | .count none => .ok (.nat documents)
      | function => match aggregations.lookup (seriesName index) with
        | some aggregation => .ok (metricValue function aggregation)
        | none => misfit searchType (.missingSeries first.id)
    return (first.id, value) :: (← valuesFrom searchType aggregations documents (index + 1) rest)

/-- The buckets of a level. -/
def bucketsAt (searchType : String) (depth : Nat) (aggregations : List (String × Json)) :
    Attempt (List Json) :=
  match ((aggregations.lookup (levelName depth)).bind (Json.get? "buckets")).bind Json.items? with
  | some buckets => .ok buckets
  | none => misfit searchType (.missingBuckets (levelName depth))

/-- The number of documents in a bucket; none if the bucket gives no such number. -/
def documentCount (bucket : List (String × Json)) : Nat :=
  ((bucket.lookup "doc_count").bind Json.unsigned?).getD 0

/-- A bucket as the list of its fields. -/
def asBucket (searchType : String) (depth : Nat) (bucket : Json) :
    Attempt (List (String × Json)) :=
  match bucket.fields? with
  | some fields => .ok fields
  | none => misfit searchType (.bucketNotObject (levelName depth))

/-- The rows of all innermost buckets below a level, `remaining` levels further in, given the keys
of the buckets around. -/
def leafRows (searchType : String) (series : List Series) :
    (remaining depth : Nat) → (key : List String) → (aggregations : List (String × Json)) →
    Attempt (List PivotRow)
  | 0, depth, key, aggregations => do
    let buckets ← bucketsAt searchType depth aggregations
    buckets.mapM fun bucket => do
      let fields ← asBucket searchType depth bucket
      let values ← valuesFrom searchType fields (documentCount fields) 0 series
      return ⟨key ++ [bucketKey fields], values, .leaf⟩
  | remaining + 1, depth, key, aggregations => do
    let buckets ← bucketsAt searchType depth aggregations
    let rows ← buckets.mapM fun bucket => do
      let fields ← asBucket searchType depth bucket
      leafRows searchType series remaining (depth + 1) (key ++ [bucketKey fields]) fields
    return rows.flatten

/-- The rows of a pivot: those of the innermost buckets, and then the rollup. -/
def rows (searchType : String) (pivot : Pivot) (response : Response) :
    Attempt (List PivotRow) := do
  let leaves ← match pivot.levels.length with
    | 0 => .ok []
    | remaining + 1 => leafRows searchType pivot.series remaining 0 [] response.aggregations
  if pivot.wantsRollup then
    let values ← valuesFrom searchType response.aggregations response.total 0 pivot.series
    return leaves ++ [⟨[], values, .rollup⟩]
  else return leaves

end Pivot

end LogSearch
