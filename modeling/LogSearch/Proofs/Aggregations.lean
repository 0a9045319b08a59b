import LogSearch.Registry
import LogSearch.Proofs.Outcome

/-!
# A pivot reads what it asked for

The aggregations of a request are put together from the innermost level outwards,
and those of a response are read from the outermost level inwards.  The two know of
each other by names only.  `Pivot.Conforms` compares any aggregations of a response
with any that were asked for, without regard to how either is made or read.

Series and levels are followed separately.  The values of series are all read
exactly if each metric that was asked for is there (`valuesFrom_succeeds_iff`).
From this the rows of the innermost level are obtained, and by induction on the
levels those of all (`leafRows_succeeds_iff`).
-/

namespace LogSearch

namespace Pivot

/-! ### Names -/

theorem natText_inj {i j : Nat} (h : toString i = toString j) : i = j := by
  rw [Nat.toString_eq_ofList_toDigits, Nat.toString_eq_ofList_toDigits, String.ofList_inj] at h
  rw [← Nat.ofDigitChars_ten_toDigits (n := i), h, Nat.ofDigitChars_ten_toDigits]

theorem seriesName_inj {i j : Nat} (h : seriesName i = seriesName j) : i = j :=
  natText_inj ((String.append_right_inj _).mp h)

theorem levelName_inj {i j : Nat} (h : levelName i = levelName j) : i = j :=
  natText_inj ((String.append_right_inj _).mp h)

theorem seriesName_ne_levelName {i j : Nat} : seriesName i ≠ levelName j := by
  intro h
  have hHead := congrArg (fun name => name.toList.head?) h
  simp [seriesName, levelName] at hHead

/-! ### Conforming -/

/-- The buckets of a level in a response. -/
def buckets? (depth : Nat) (response : List (String × Json)) : Option (List Json) :=
  ((response.lookup (levelName depth)).bind (Json.get? "buckets")).bind Json.items?

/-- What is asked for inside the buckets of a level. -/
def inside (level : Json) : List (String × Json) :=
  ((level.get? "aggregations").bind Json.fields?).getD []

/-- Every series that was asked for is in the response, and every level that was asked for has an
array of buckets there, which are objects and conform to what was asked for inside the level. -/
inductive Conforms : (requested response : List (String × Json)) → Prop
  | intro {requested response : List (String × Json)}
      (hSeries : ∀ index aggregation, requested.lookup (seriesName index) = some aggregation →
        ∃ answer, response.lookup (seriesName index) = some answer)
      (hLevels : ∀ depth level, requested.lookup (levelName depth) = some level →
        ∃ buckets, buckets? depth response = some buckets ∧
          ∀ bucket ∈ buckets, ∃ fields, bucket = .obj fields)
      (hInside : ∀ depth level buckets fields, requested.lookup (levelName depth) = some level →
        buckets? depth response = some buckets → .obj fields ∈ buckets →
          Conforms (inside level) fields) :
      Conforms requested response

/-- Every series that was asked for is in the response. -/
def HasSeries (requested response : List (String × Json)) : Prop :=
  ∀ index aggregation, requested.lookup (seriesName index) = some aggregation →
    ∃ answer, response.lookup (seriesName index) = some answer

/-- Every level that was asked for is in the response. -/
def HasLevels (requested response : List (String × Json)) : Prop :=
  ∀ depth level, requested.lookup (levelName depth) = some level →
    ∃ buckets, buckets? depth response = some buckets ∧
      ∀ bucket ∈ buckets, ∃ fields, bucket = .obj fields ∧ Conforms (inside level) fields

theorem conforms_iff {requested response : List (String × Json)} :
    Conforms requested response ↔ HasSeries requested response ∧ HasLevels requested response := by
  constructor
  · rintro ⟨hSeries, hLevels, hInside⟩
    refine ⟨hSeries, fun depth level hLevel => ?_⟩
    obtain ⟨buckets, hBuckets, hObjects⟩ := hLevels depth level hLevel
    refine ⟨buckets, hBuckets, fun bucket hBucket => ?_⟩
    obtain ⟨fields, rfl⟩ := hObjects bucket hBucket
    exact ⟨fields, rfl, hInside depth level buckets fields hLevel hBuckets hBucket⟩
  · rintro ⟨hSeries, hLevels⟩
    refine ⟨hSeries, fun depth level hLevel => ?_, ?_⟩
    · obtain ⟨buckets, hBuckets, hEach⟩ := hLevels depth level hLevel
      refine ⟨buckets, hBuckets, fun bucket hBucket => ?_⟩
      obtain ⟨fields, hFields, -⟩ := hEach bucket hBucket
      exact ⟨fields, hFields⟩
    · intro depth level buckets fields hLevel hBuckets hBucket
      obtain ⟨others, hOthers, hEach⟩ := hLevels depth level hLevel
      obtain rfl : others = buckets := Option.some.inj (hOthers.symm.trans hBuckets)
      obtain ⟨found, hFound, hConforms⟩ := hEach _ hBucket
      rwa [Json.obj.inj hFound]

/-- What is asked for has the given levels inside each other, the first of them at a given depth and
no others beside them.  Each is asked for by its field and its limit. -/
inductive AsksForLevels : (depth : Nat) → (levels : List (String × UInt32)) →
    (requested : List (String × Json)) → Prop
  | nil {depth : Nat} {requested : List (String × Json)}
      (hNone : ∀ other, requested.lookup (levelName other) = none) :
      AsksForLevels depth [] requested
  | cons {depth : Nat} {field : String} {limit : UInt32} {rest : List (String × UInt32)}
      {requested : List (String × Json)} {level : Json}
      (hLevel : requested.lookup (levelName depth) = some level)
      (hTerms : level.get? "terms" = some (.obj [("field", .str field), ("size", .word limit)]))
      (hOthers : ∀ other, other ≠ depth → requested.lookup (levelName other) = none)
      (hInside : AsksForLevels (depth + 1) rest (inside level)) :
      AsksForLevels depth ((field, limit) :: rest) requested

/-- Only the names of levels matter to the levels that are asked for. -/
theorem AsksForLevels.congr {depth : Nat} {levels : List (String × UInt32)}
    {requested others : List (String × Json)} (h : AsksForLevels depth levels requested)
    (hSame : ∀ other, others.lookup (levelName other) = requested.lookup (levelName other)) :
    AsksForLevels depth levels others := by
  cases h with
  | nil hNone => exact .nil fun other => (hSame other).trans (hNone other)
  | cons hLevel hTerms hOthers hInside =>
    exact .cons ((hSame depth).trans hLevel) hTerms
      (fun other hNe => (hSame other).trans (hOthers other hNe)) hInside

/-! ### Series -/

section Series

variable {layout : IndexLayout} {searchType : String} {response : List (String × Json)}
  {documents : Nat}

theorem aggregation?_eq_none_iff {function : SeriesFunction} :
    aggregation? layout function = none ↔ function = .count none := by
  cases function with
  | count field => cases field <;> simp [aggregation?]
  | metric metric field => simp [aggregation?]
  | percentile field rank => simp [aggregation?]

theorem get?_metricsFrom_levelName (index depth : Nat) (series : List Series) :
    (metricsFrom layout index series).get? (levelName depth) = none := by
  induction series generalizing index with
  | nil => rfl
  | cons first rest ih =>
    rw [metricsFrom]
    split
    · exact ih (index + 1)
    · rw [Keyed.get?_insert_of_ne (Ne.symm seriesName_ne_levelName)]
      exact ih (index + 1)

theorem valuesFrom_cons_of_count {index : Nat} {first : Series} {rest : List Series}
    (hCount : first.function = .count none) :
    valuesFrom searchType response documents index (first :: rest) =
      (valuesFrom searchType response documents (index + 1) rest).map
        ((first.id, Json.nat documents) :: ·) := by
  rw [valuesFrom, hCount]
  rfl

theorem valuesFrom_cons_of_answer {index : Nat} {first : Series} {rest : List Series}
    {answer : Json} (hMetric : first.function ≠ .count none)
    (hAnswer : response.lookup (seriesName index) = some answer) :
    valuesFrom searchType response documents index (first :: rest) =
      (valuesFrom searchType response documents (index + 1) rest).map
        ((first.id, metricValue first.function answer) :: ·) := by
  rw [valuesFrom]
  split
  · contradiction
  · rw [hAnswer]
    rfl

theorem valuesFrom_cons_of_missing {index : Nat} {first : Series} {rest : List Series}
    (hMetric : first.function ≠ .count none)
    (hMissing : response.lookup (seriesName index) = none) :
    valuesFrom searchType response documents index (first :: rest) =
      misfit searchType (.missingSeries first.id) := by
  rw [valuesFrom]
  split
  · contradiction
  · rw [hMissing]
    rfl

theorem hasSeries_insert_iff {index : Nat} {aggregation : Json} {table : Keyed Json} :
    HasSeries (table.insert (seriesName index) aggregation).entries response ↔
      (∃ answer, response.lookup (seriesName index) = some answer) ∧
        HasSeries table.entries response := by
  constructor
  · intro h
    have hHere : ∃ answer, response.lookup (seriesName index) = some answer :=
      h index aggregation (Keyed.get?_insert_self _ _ table)
    refine ⟨hHere, fun other found hFound => ?_⟩
    by_cases hSame : other = index
    · rw [hSame]
      exact hHere
    · have hNe : seriesName other ≠ seriesName index := fun h => hSame (seriesName_inj h)
      exact h other found ((Keyed.get?_insert_of_ne hNe _ table).trans hFound)
  · rintro ⟨hHere, hOthers⟩ other found hFound
    by_cases hSame : other = index
    · rw [hSame]
      exact hHere
    · have hNe : seriesName other ≠ seriesName index := fun h => hSame (seriesName_inj h)
      exact hOthers other found ((Keyed.get?_insert_of_ne hNe _ table).symm.trans hFound)

/-- The values of series can be read exactly if the response has all metrics that were asked for. -/
theorem valuesFrom_succeeds_iff (layout : IndexLayout) (index : Nat) (series : List Series) :
    (∃ values, valuesFrom searchType response documents index series = .ok values) ↔
      HasSeries (metricsFrom layout index series).entries response := by
  induction series generalizing index with
  | nil =>
    refine ⟨fun _ place aggregation hNone => ?_, fun _ => ⟨[], rfl⟩⟩
    contradiction
  | cons first rest ih =>
    cases hAggregation : aggregation? layout first.function with
    | none =>
      rw [valuesFrom_cons_of_count (aggregation?_eq_none_iff.mp hAggregation),
        exists_map_eq_ok_iff, ih, metricsFrom, hAggregation]
    | some aggregation =>
      have hMetric : first.function ≠ .count none := by
        intro hCount
        rw [aggregation?_eq_none_iff.mpr hCount] at hAggregation
        contradiction
      rw [metricsFrom, hAggregation]
      simp only [hasSeries_insert_iff, ← ih]
      cases hAnswer : response.lookup (seriesName index) with
      | none =>
        rw [valuesFrom_cons_of_missing hMetric hAnswer]
        simp [misfit]
      | some answer =>
        rw [valuesFrom_cons_of_answer hMetric hAnswer, exists_map_eq_ok_iff]
        simp

end Series

/-! ### Levels -/

section Levels

variable {searchType : String} {series : List Series} {response : List (String × Json)}

theorem hasLevels_metricsFrom {layout : IndexLayout} :
    HasLevels (metricsFrom layout 0 series).entries response := by
  intro depth level hLevel
  have hNone : (metricsFrom layout 0 series).get? (levelName depth) = none :=
    get?_metricsFrom_levelName 0 depth series
  rw [Keyed.get?, hLevel] at hNone
  contradiction

theorem conforms_metricsFrom_iff {layout : IndexLayout} :
    Conforms (metricsFrom layout 0 series).entries response ↔
      HasSeries (metricsFrom layout 0 series).entries response := by
  rw [conforms_iff, and_iff_left hasLevels_metricsFrom]

theorem inside_levelJson (field : String) (limit : UInt32) (table : Keyed Json) :
    inside (levelJson field limit table) = table.entries := by
  unfold inside levelJson
  cases hEmpty : table.isEmpty with
  | true =>
    have hNone : table.entries = [] := by simpa [Keyed.isEmpty] using hEmpty
    rw [hNone]
    rfl
  | false =>
    show table.entries.map (fun entry => (entry.1, id entry.2)) = table.entries
    exact List.map_id _

section Nested

variable {metrics : Keyed Json} {depth : Nat} {field : String} {limit : UInt32}
  {rest : List (String × UInt32)}

theorem get?_nested_seriesName (index : Nat) :
    (nested metrics depth ((field, limit) :: rest)).get? (seriesName index) = none :=
  Keyed.get?_insert_of_ne seriesName_ne_levelName _ ∅

theorem get?_nested_levelName :
    (nested metrics depth ((field, limit) :: rest)).get? (levelName depth) =
      some (levelJson field limit (nested metrics (depth + 1) rest)) :=
  Keyed.get?_insert_self _ _ ∅

theorem get?_nested_of_ne {other : Nat} (hNe : other ≠ depth) :
    (nested metrics depth ((field, limit) :: rest)).get? (levelName other) = none :=
  Keyed.get?_insert_of_ne (fun h => hNe (levelName_inj h)) _ ∅

theorem hasSeries_nested :
    HasSeries (nested metrics depth ((field, limit) :: rest)).entries response := by
  intro index aggregation hFound
  have hNone : (nested metrics depth ((field, limit) :: rest)).get? (seriesName index) = none :=
    get?_nested_seriesName index
  rw [Keyed.get?, hFound] at hNone
  contradiction

/-- What a level asks for is that its buckets are objects that conform to what is inside. -/
theorem conforms_nested_cons_iff :
    Conforms (nested metrics depth ((field, limit) :: rest)).entries response ↔
      ∃ buckets, buckets? depth response = some buckets ∧ ∀ bucket ∈ buckets, ∃ fields,
        bucket = .obj fields ∧ Conforms (nested metrics (depth + 1) rest).entries fields := by
  rw [conforms_iff, and_iff_right hasSeries_nested]
  constructor
  · intro hLevels
    have hThis := hLevels depth _ get?_nested_levelName
    rwa [inside_levelJson] at hThis
  · intro hThis other level hFound
    by_cases hSame : other = depth
    · rw [hSame] at hFound ⊢
      have hLevel := hFound.symm.trans get?_nested_levelName
      rw [Option.some.inj hLevel, inside_levelJson]
      exact hThis
    · have hNone := hFound.symm.trans (get?_nested_of_ne hSame)
      contradiction

theorem get?_terms_levelJson (table : Keyed Json) :
    (levelJson field limit table).get? "terms" =
      some (.obj [("field", .str field), ("size", .word limit)]) := by
  unfold levelJson
  cases table.isEmpty <;> rfl

end Nested

theorem asksForLevels_nested (layout : IndexLayout) (depth : Nat)
    (levels : List (String × UInt32)) :
    AsksForLevels depth levels (nested (metricsFrom layout 0 series) depth levels).entries := by
  induction levels generalizing depth with
  | nil => exact .nil fun other => get?_metricsFrom_levelName 0 other series
  | cons level rest ih =>
    obtain ⟨field, limit⟩ := level
    refine .cons get?_nested_levelName (get?_terms_levelJson _)
      (fun other hNe => get?_nested_of_ne hNe) ?_
    rw [inside_levelJson]
    exact ih (depth + 1)

theorem bucketsAt_eq_ok_iff {depth : Nat} {buckets : List Json} :
    bucketsAt searchType depth response = .ok buckets ↔ buckets? depth response = some buckets := by
  unfold bucketsAt buckets?
  split
  · next found hFound => rw [hFound, Except.ok.injEq, Option.some.injEq]
  · next hNone =>
    rw [hNone]
    simp [misfit]

theorem asBucket_eq_ok_iff {depth : Nat} {bucket : Json} {fields : List (String × Json)} :
    asBucket searchType depth bucket = .ok fields ↔ bucket = .obj fields := by
  cases bucket <;> simp [asBucket, Json.fields?, misfit]

theorem leafRows_zero_succeeds_iff {depth : Nat} {key : List String} :
    (∃ rows, leafRows searchType series 0 depth key response = .ok rows) ↔
      ∃ buckets, buckets? depth response = some buckets ∧ ∀ bucket ∈ buckets, ∃ fields,
        bucket = .obj fields ∧
          ∃ values, valuesFrom searchType fields (documentCount fields) 0 series = .ok values := by
  simp only [leafRows, exists_bind_eq_ok_iff, exists_mapM_eq_ok_iff, bucketsAt_eq_ok_iff,
    asBucket_eq_ok_iff, exists_pure_eq_ok, and_true]

theorem leafRows_succ_succeeds_iff {remaining depth : Nat} {key : List String} :
    (∃ rows, leafRows searchType series (remaining + 1) depth key response = .ok rows) ↔
      ∃ buckets, buckets? depth response = some buckets ∧ ∀ bucket ∈ buckets, ∃ fields,
        bucket = .obj fields ∧ ∃ rows, leafRows searchType series remaining (depth + 1)
          (key ++ [bucketKey fields]) fields = .ok rows := by
  simp only [leafRows, exists_bind_eq_ok_iff, exists_pure_eq_ok, and_true, exists_mapM_eq_ok_iff,
    bucketsAt_eq_ok_iff, asBucket_eq_ok_iff]

/-- The rows below a level can be read exactly if the response conforms to what is asked for from
this level inwards. -/
theorem leafRows_succeeds_iff (layout : IndexLayout) (level : String × UInt32)
    (rest : List (String × UInt32)) (depth : Nat) (key : List String) :
    (∃ rows, leafRows searchType series rest.length depth key response = .ok rows) ↔
      Conforms (nested (metricsFrom layout 0 series) depth (level :: rest)).entries response := by
  obtain ⟨field, limit⟩ := level
  induction rest generalizing field limit depth key response with
  | nil =>
    rw [List.length_nil, leafRows_zero_succeeds_iff, conforms_nested_cons_iff]
    simp only [nested, conforms_metricsFrom_iff, valuesFrom_succeeds_iff layout]
  | cons next others ih =>
    have hInside (fields : List (String × Json)) (key : List String) :
        (∃ rows, leafRows searchType series others.length (depth + 1) key fields = .ok rows) ↔
          Conforms (nested (metricsFrom layout 0 series) (depth + 1) (next :: others)).entries
            fields :=
      ih (depth + 1) key next.1 next.2
    rw [List.length_cons, leafRows_succ_succeeds_iff, conforms_nested_cons_iff]
    simp only [hInside]

end Levels

/-! ### All of a pivot -/

section Pivots

variable {layout : IndexLayout} {searchType : String} {pivot : Pivot}

theorem get?_aggregations (name : String) :
    (pivot.aggregations layout).get? name =
      if pivot.wantsRollup then
        ((pivot.metrics layout).get? name).or
          ((nested (pivot.metrics layout) 0 pivot.levels).get? name)
      else (nested (pivot.metrics layout) 0 pivot.levels).get? name := by
  unfold aggregations
  split
  · exact Keyed.get?_foldl_insert name _ (pivot.metrics layout).ascending
  · rfl

theorem get?_aggregations_seriesName (index : Nat) :
    (pivot.aggregations layout).get? (seriesName index) =
      if pivot.wantsRollup then (pivot.metrics layout).get? (seriesName index) else none := by
  rw [get?_aggregations]
  cases hLevels : pivot.levels with
  | nil => simp [nested, wantsRollup, hLevels]
  | cons level rest =>
    obtain ⟨field, limit⟩ := level
    simp [get?_nested_seriesName]

theorem get?_aggregations_levelName (depth : Nat) :
    (pivot.aggregations layout).get? (levelName depth) =
      (nested (pivot.metrics layout) 0 pivot.levels).get? (levelName depth) := by
  have hNone : (pivot.metrics layout).get? (levelName depth) = none :=
    get?_metricsFrom_levelName 0 depth pivot.series
  rw [get?_aggregations, hNone, Option.none_or, ite_self]

/-- A pivot asks for one level for each grouping field, with the limit of the field's row group. -/
theorem asksForLevels_aggregations :
    AsksForLevels 0
      (pivot.rowGroups.flatMap fun group => group.fields.map fun field => (field, group.limit))
      (pivot.aggregations layout).entries :=
  (asksForLevels_nested layout 0 pivot.levels).congr get?_aggregations_levelName

theorem hasSeries_aggregations_iff {response : List (String × Json)} :
    HasSeries (pivot.aggregations layout).entries response ↔
      (pivot.wantsRollup = true → HasSeries (pivot.metrics layout).entries response) := by
  show (∀ index aggregation, (pivot.aggregations layout).get? (seriesName index) =
    some aggregation → _) ↔ _
  cases hWants : pivot.wantsRollup with
  | true =>
    simp only [get?_aggregations_seriesName, hWants, if_true, true_imp_iff]
    rfl
  | false => simp [get?_aggregations_seriesName, hWants]

theorem hasLevels_aggregations_iff {response : List (String × Json)} :
    HasLevels (pivot.aggregations layout).entries response ↔
      (pivot.levels ≠ [] →
        Conforms (nested (pivot.metrics layout) 0 pivot.levels).entries response) := by
  have hSame : HasLevels (pivot.aggregations layout).entries response ↔
      HasLevels (nested (pivot.metrics layout) 0 pivot.levels).entries response := by
    show (∀ depth level, (pivot.aggregations layout).get? (levelName depth) = some level → _) ↔ _
    simp only [get?_aggregations_levelName]
    rfl
  rw [hSame]
  cases pivot.levels with
  | nil =>
    have hMetrics : HasLevels (pivot.metrics layout).entries response := hasLevels_metricsFrom
    simp [nested, hMetrics]
  | cons level rest =>
    obtain ⟨field, limit⟩ := level
    rw [conforms_iff, and_iff_right hasSeries_nested]
    simp

theorem conforms_aggregations_iff {response : List (String × Json)} :
    Conforms (pivot.aggregations layout).entries response ↔
      (pivot.wantsRollup = true → HasSeries (pivot.metrics layout).entries response) ∧
        (pivot.levels ≠ [] →
          Conforms (nested (pivot.metrics layout) 0 pivot.levels).entries response) := by
  rw [conforms_iff, hasSeries_aggregations_iff, hasLevels_aggregations_iff]

/-- The row for the whole result can be read exactly if the metrics are there or not wanted. -/
theorem rollup_succeeds_iff (layout : IndexLayout) {response : Response} (leaves : List PivotRow) :
    (∃ rows, (if pivot.wantsRollup then do
        let values ← valuesFrom searchType response.aggregations response.total 0 pivot.series
        return leaves ++ [⟨[], values, .rollup⟩]
      else return leaves : Attempt (List PivotRow)) = .ok rows) ↔
        (pivot.wantsRollup = true →
          HasSeries (pivot.metrics layout).entries response.aggregations) := by
  split
  · next hWants =>
    simp only [exists_bind_eq_ok_iff, exists_pure_eq_ok, and_true, hWants, true_imp_iff]
    exact valuesFrom_succeeds_iff layout 0 pivot.series
  · next hWants =>
    simp [hWants, exists_pure_eq_ok]

theorem rows_succeeds_iff {response : Response} :
    (∃ rows, pivot.rows searchType response = .ok rows) ↔
      Conforms (pivot.aggregations layout).entries response.aggregations := by
  rw [conforms_aggregations_iff, rows]
  cases hLevels : pivot.levels with
  | nil =>
    simp only [List.length_nil, exists_bind_eq_ok_iff, rollup_succeeds_iff layout]
    simp
  | cons level rest =>
    simp only [List.length_cons, exists_bind_eq_ok_iff, rollup_succeeds_iff layout,
      exists_and_right]
    rw [leafRows_succeeds_iff layout level rest 0 [], and_comm]
    simp [metrics]

end Pivots

/-! ### Failures -/

/-- Nothing else can go wrong than that the response for a search type does not fit. -/
def OnlyMisfits {α : Type} (searchType : String) (outcome : Attempt α) : Prop :=
  ∀ error, outcome = .error error → ∃ reason, error = .badResponse searchType reason

section Misfits

variable {α β : Type} {searchType : String}

theorem onlyMisfits_ok (value : α) : OnlyMisfits searchType (.ok value) := by
  intro error h
  contradiction

theorem onlyMisfits_misfit (reason : ResponseError) :
    OnlyMisfits searchType (misfit searchType reason : Attempt α) := by
  intro error h
  exact ⟨reason, (Except.error.inj h).symm⟩

theorem OnlyMisfits.bind {first : Attempt α} {next : α → Attempt β}
    (hFirst : OnlyMisfits searchType first) (hNext : ∀ value, OnlyMisfits searchType (next value)) :
    OnlyMisfits searchType (first >>= next) := by
  intro error h
  rcases bind_eq_error.mp h with hFails | ⟨value, -, hFails⟩
  · exact hFirst error hFails
  · exact hNext value error hFails

theorem OnlyMisfits.map {outcome : Attempt α} {f : α → β} (h : OnlyMisfits searchType outcome) :
    OnlyMisfits searchType (outcome.map f) := by
  intro error hFails
  exact h error (map_eq_error.mp hFails)

theorem onlyMisfits_mapM {f : α → Attempt β} (items : List α)
    (hEach : ∀ item, OnlyMisfits searchType (f item)) : OnlyMisfits searchType (items.mapM f) := by
  intro error h
  obtain ⟨item, -, hFails⟩ := ((failsBy_mapM error).mp h).exists_mem
  exact hEach item error hFails

theorem onlyMisfits_valuesFrom (response : List (String × Json)) (documents index : Nat)
    (series : List Series) :
    OnlyMisfits searchType (valuesFrom searchType response documents index series) := by
  induction series generalizing index with
  | nil => exact onlyMisfits_ok []
  | cons first rest ih =>
    by_cases hCount : first.function = .count none
    · rw [valuesFrom_cons_of_count hCount]
      exact (ih (index + 1)).map
    · cases hAnswer : response.lookup (seriesName index) with
      | none =>
        rw [valuesFrom_cons_of_missing hCount hAnswer]
        exact onlyMisfits_misfit _
      | some answer =>
        rw [valuesFrom_cons_of_answer hCount hAnswer]
        exact (ih (index + 1)).map

theorem onlyMisfits_bucketsAt (depth : Nat) (response : List (String × Json)) :
    OnlyMisfits searchType (bucketsAt searchType depth response) := by
  unfold bucketsAt
  split
  · exact onlyMisfits_ok _
  · exact onlyMisfits_misfit _

theorem onlyMisfits_asBucket (depth : Nat) (bucket : Json) :
    OnlyMisfits searchType (asBucket searchType depth bucket) := by
  unfold asBucket
  split
  · exact onlyMisfits_ok _
  · exact onlyMisfits_misfit _

theorem onlyMisfits_leafRows (series : List Series) (remaining depth : Nat) (key : List String)
    (response : List (String × Json)) :
    OnlyMisfits searchType (leafRows searchType series remaining depth key response) := by
  induction remaining generalizing depth key response with
  | zero =>
    refine (onlyMisfits_bucketsAt depth response).bind fun buckets =>
      onlyMisfits_mapM buckets fun bucket => ?_
    exact (onlyMisfits_asBucket depth bucket).bind fun fields =>
      (onlyMisfits_valuesFrom fields _ 0 series).bind fun _ => onlyMisfits_ok _
  | succ remaining ih =>
    refine (onlyMisfits_bucketsAt depth response).bind fun buckets =>
      (onlyMisfits_mapM buckets fun bucket => ?_).bind fun _ => onlyMisfits_ok _
    exact (onlyMisfits_asBucket depth bucket).bind fun fields => ih _ _ fields

theorem onlyMisfits_rows (pivot : Pivot) (response : Response) :
    OnlyMisfits searchType (pivot.rows searchType response) := by
  have hRollup (leaves : List PivotRow) : OnlyMisfits searchType (if pivot.wantsRollup then do
      let values ← valuesFrom searchType response.aggregations response.total 0 pivot.series
      return leaves ++ [⟨[], values, .rollup⟩]
      else return leaves : Attempt (List PivotRow)) := by
    split
    · exact (onlyMisfits_valuesFrom _ _ 0 pivot.series).bind fun _ => onlyMisfits_ok _
    · exact onlyMisfits_ok _
  unfold rows
  cases pivot.levels.length with
  | zero => exact (onlyMisfits_ok _).bind hRollup
  | succ remaining => exact (onlyMisfits_leafRows _ remaining 0 [] _).bind hRollup

end Misfits

end Pivot

/-- A pivot of any shape, run by its handler, asks for one level for each of its grouping fields.
It has a result in a response exactly if the aggregations of the response conform to those that
the same handler asked for.  Otherwise there is no result, and the response is reported as one
that does not fit. -/
theorem Handler.pivot_result_iff_conforms (context : QueryContext) (id : String)
    (name : Option String) (streams : NameSet) (pivot : Pivot) (response : Response) :
    let search : SearchType := { id, name, streams, detail := .pivot pivot }
    let handler : Handler := ⟨.pivot⟩
    ∃ body, handler.request context search = .ok body ∧
      Pivot.AsksForLevels 0
        (pivot.rowGroups.flatMap fun group => group.fields.map fun field => (field, group.limit))
        body.aggregations.entries ∧
      ((∃ result, handler.result search response = .ok result) ↔
        Pivot.Conforms body.aggregations.entries response.aggregations) ∧
      (¬ Pivot.Conforms body.aggregations.entries response.aggregations →
        ∃ reason, handler.result search response = .error (.badResponse id reason)) := by
  intro search handler
  have hResult : handler.result search response =
      (pivot.rows id response).map fun rows => ⟨id, name, response.total, .pivot rows⟩ := by
    show ((pivot.rows id response).map ResultContent.pivot >>= fun content =>
      (pure ⟨id, name, response.total, content⟩ : Attempt SearchResult)) = _
    cases pivot.rows id response <;> rfl
  have hSucceeds : (∃ result, handler.result search response = .ok result) ↔
      Pivot.Conforms (pivot.aggregations context.layout).entries response.aggregations := by
    rw [hResult, exists_map_eq_ok_iff, Pivot.rows_succeeds_iff]
  refine ⟨pivot.request context search, rfl, Pivot.asksForLevels_aggregations, hSucceeds,
    fun hNot => ?_⟩
  cases hOutcome : pivot.rows id response with
  | ok rows =>
    have hConforms := hSucceeds.mp (by rw [hResult, hOutcome]; exact ⟨_, rfl⟩)
    exact absurd hConforms hNot
  | error error =>
    obtain ⟨reason, rfl⟩ := Pivot.onlyMisfits_rows pivot response error hOutcome
    exact ⟨reason, by rw [hResult, hOutcome]; rfl⟩

/-- Two grouping fields with one limit, and a bucket in which the average is there or is missing. -/
theorem Handler.pivot_result_iff_conforms_of_two_levels :
    let context : QueryContext := ⟨{}, ∅, {}, .epoch, .epoch⟩
    let search : SearchType :=
      { id := "table"
        detail := .pivot
          { rowGroups := [{ fields := ["source", "level"], limit := 5 }]
            series := [⟨"avg(took)", none, .metric .avg "took"⟩]
            rollup := false } }
    let level (name : String) (bucket : List (String × Json)) : String × Json :=
      (name, .obj [("buckets", .arr [.obj bucket])])
    let fitting : Response :=
      { aggregations := [level "agg-0" [level "agg-1" [("series-0", .obj [("value", .int 3)])]]] }
    let lacking : Response := { aggregations := [level "agg-0" [level "agg-1" []]] }
    ∃ body, Handler.request ⟨.pivot⟩ context search = .ok body ∧
      Pivot.AsksForLevels 0 [("source", 5), ("level", 5)] body.aggregations.entries ∧
      Pivot.Conforms body.aggregations.entries fitting.aggregations ∧
      ¬ Pivot.Conforms body.aggregations.entries lacking.aggregations ∧
      ∃ reason, Handler.result ⟨.pivot⟩ search lacking = .error (.badResponse "table" reason) := by
  intro context search level fitting lacking
  obtain ⟨body, hBody, hLevels, hFitting, -⟩ :=
    pivot_result_iff_conforms context "table" none ∅ _ fitting
  obtain ⟨other, hOther, -, hLacking, hMisfit⟩ :=
    pivot_result_iff_conforms context "table" none ∅ _ lacking
  obtain rfl : body = other := Except.ok.inj (hBody.symm.trans hOther)
  have hNot : ¬ Pivot.Conforms body.aggregations.entries lacking.aggregations := by
    intro hConforms
    obtain ⟨result, hResult⟩ := hLacking.mpr hConforms
    have hFails : Handler.result ⟨.pivot⟩ search lacking =
        .error (.badResponse "table" (.missingSeries "avg(took)")) := rfl
    exact nomatch hFails.symm.trans hResult
  exact ⟨body, hBody, hLevels, hFitting.mp ⟨_, rfl⟩, hNot, hMisfit hNot⟩

end LogSearch
