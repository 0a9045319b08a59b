import LogSearch.Result.Rows

/-!
# What a row takes from its bucket

A bucket is an object of the response, and so is the list of aggregations of the
whole result.  A row takes the text of the bucket's key, the number of its
documents, and for each series the value that an aggregation inside of it holds.
Each is described here by the place where it stands in the object and by what
counts where nothing stands there.

The place of a value is a path of fields and items, followed by `Json.at?`.  Which
path it is depends on the function of the series alone (`SeriesFunction.valuePath`).
-/

namespace LogSearch

/-! ### Paths -/

namespace Json

/-- A step from a value to one inside of it. -/
inductive Step
  /-- To the field with a name. -/
  | field (name : String)
  /-- To the item at a place. -/
  | item (place : Nat)
  /-- To the first field, whatever its name is. -/
  | firstField

/-- Where a step leads, if it leads anywhere. -/
def next? : Json → Step → Option Json
  | .obj fields, .field name => fields.lookup name
  | .arr items, .item place => items[place]?
  | .obj ((_, value) :: _), .firstField => some value
  | _, _ => none

/-- The value at the end of a path, if the path leads anywhere. -/
def at? (whole : Json) : List Step → Option Json
  | [] => some whole
  | step :: path => (whole.next? step).bind fun inner => at? inner path

theorem at?_append (whole : Json) (path rest : List Step) :
    whole.at? (path ++ rest) = (whole.at? path).bind fun inner => inner.at? rest := by
  induction path generalizing whole with
  | nil => rfl
  | cons step path ih =>
    rw [List.cons_append, at?, at?, Option.bind_assoc]
    exact congrArg _ (funext ih)

/-- There is nothing inside of null, so that a path may go on from null where it leads nowhere. -/
theorem getD_at?_append (whole : Json) (path rest : List Step) :
    (whole.at? (path ++ rest)).getD .null =
      (((whole.at? path).getD .null).at? rest).getD .null := by
  rw [at?_append]
  cases whole.at? path with
  | some inner => rfl
  | none =>
    cases rest with
    | nil => rfl
    | cons step rest => cases step <;> rfl

theorem field_eq (name : String) (whole : Json) :
    whole.field name = (whole.at? [.field name]).getD .null := by
  cases whole with
  | obj fields => rw [at?, next?, field, get?]; cases fields.lookup name <;> rfl
  | _ => rfl

theorem item_eq (place : Nat) (whole : Json) :
    whole.item place = (whole.at? [.item place]).getD .null := by
  cases whole with
  | arr items => rw [at?, next?, item, List.getD_eq_getElem?_getD]; cases items[place]? <;> rfl
  | _ => rfl

theorem firstField_eq (whole : Json) :
    whole.firstField = (whole.at? [.firstField]).getD .null := by
  cases whole with
  | obj fields => cases fields <;> rfl
  | _ => rfl

end Json

/-! ### Keys and numbers of documents -/

namespace Pivot

/-- The text of the key of a bucket: of the one meant for display, otherwise of the plain one, and
empty without either. -/
inductive HasKey (bucket : List (String × Json)) : String → Prop
  | display {value : Json} {text : String} (hDisplay : bucket.lookup "key_as_string" = some value)
      (hText : value.StandsAs text) : HasKey bucket text
  | plain {value : Json} {text : String} (hDisplay : bucket.lookup "key_as_string" = none)
      (hPlain : bucket.lookup "key" = some value) (hText : value.StandsAs text) :
      HasKey bucket text
  | missing (hDisplay : bucket.lookup "key_as_string" = none)
      (hPlain : bucket.lookup "key" = none) : HasKey bucket ""

/-- The number of documents that a bucket gives, or none if it gives no unsigned number. -/
def Counts (bucket : List (String × Json)) (documents : Nat) : Prop :=
  (∀ n : Nat, bucket.lookup "doc_count" = some (.nat n) → documents = n) ∧
    ((∀ n : Nat, bucket.lookup "doc_count" ≠ some (.nat n)) → documents = 0)

theorem counts_documentCount (bucket : List (String × Json)) :
    Counts bucket (documentCount bucket) := by
  constructor
  · intro n hCount
    simp [documentCount, hCount, Json.nat, Json.unsigned?]
  · intro hNone
    unfold documentCount
    cases hCount : bucket.lookup "doc_count" with
    | none => rfl
    | some value =>
      cases value with
      | int n =>
        have hNegative : ¬ 0 ≤ n := by
          intro hNonnegative
          refine hNone n.toNat ?_
          rw [hCount, Json.nat, Int.toNat_of_nonneg hNonnegative]
        simp [Json.unsigned?, hNegative]
      | _ => rfl

theorem standsAs_bucketKey {bucket : List (String × Json)} {value : Json}
    (h : (bucket.lookup "key_as_string").or (bucket.lookup "key") = some value) :
    value.StandsAs (bucketKey bucket) := by
  rw [bucketKey, h]
  cases value with
  | str text => exact .text text
  | _ => exact .other fun _ h => nomatch h

theorem hasKey_bucketKey (bucket : List (String × Json)) : HasKey bucket (bucketKey bucket) := by
  cases hDisplay : bucket.lookup "key_as_string" with
  | some value => exact .display hDisplay (standsAs_bucketKey (by rw [hDisplay, Option.some_or]))
  | none =>
    cases hPlain : bucket.lookup "key" with
    | some value =>
      refine .plain hDisplay hPlain (standsAs_bucketKey ?_)
      rw [hDisplay, hPlain, Option.none_or]
    | none =>
      have hEmpty : bucketKey bucket = "" := by rw [bucketKey, hDisplay, hPlain, Option.none_or]
      rw [hEmpty]
      exact .missing hDisplay hPlain

end Pivot

/-! ### Values -/

/-- Where the value of a series stands in the aggregation that computes it. -/
def SeriesFunction.valuePath : SeriesFunction → List Json.Step
  | .metric .stddev _ => [.field "std_deviation"]
  | .metric .variance _ => [.field "variance"]
  | .metric .latest name => [.field "hits", .field "hits", .item 0, .field "_source", .field name]
  | .percentile _ _ => [.field "values", .firstField]
  | .count _ | .metric .avg _ | .metric .sum _ | .metric .min _ | .metric .max _
  | .metric .card _ => [.field "value"]

namespace Pivot

theorem metricValue_eq (function : SeriesFunction) (aggregation : Json) :
    metricValue function aggregation = (aggregation.at? function.valuePath).getD .null := by
  cases function with
  | count field => exact Json.field_eq _ _
  | percentile field rank =>
    rw [metricValue, Json.field_eq, Json.firstField_eq, ← Json.getD_at?_append]
    rfl
  | metric metric field =>
    cases metric with
    | latest =>
      rw [metricValue]
      simp only [Json.field_eq, Json.item_eq, ← Json.getD_at?_append]
      rfl
    | _ => exact Json.field_eq _ _

end Pivot

end LogSearch
