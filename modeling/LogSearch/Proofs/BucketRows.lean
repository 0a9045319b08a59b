import LogSearch.Proofs.Aggregations
import LogSearch.Proofs.BucketContents

/-!
# Rows of a pivot enumerate the innermost buckets

A bucket of the innermost level is reached from the whole result by one place for
each level, counted among the buckets of the level.  Read from the outermost level
inwards these places are the path of the bucket, and a walk that goes into each
bucket before the next one meets the paths in lexicographic order.

The row of a path has the keys of the buckets on it (`HasKey`) and the values of the
last of them (`HasValues`), which are told by what stands in these buckets.
`Enumerates` says that rows belong to the paths in this order, one to each.  It is
obtained for one bucket, passed on to a list of buckets next to each other
(`enumerates_flatten`) and from there to the level that holds them, and so by
induction on the levels to the whole result.
-/

namespace LogSearch

namespace Pivot

/-! ### Paths -/

/-- The buckets on a path that starts at a level, from the outside inwards. -/
inductive LeadsTo : (depth : Nat) → (aggregations : List (String × Json)) → (path : List Nat) →
    (buckets : List (List (String × Json))) → Prop
  | here {depth : Nat} {aggregations : List (String × Json)} : LeadsTo depth aggregations [] []
  | into {depth place : Nat} {aggregations bucket : List (String × Json)} {items : List Json}
      {path : List Nat} {buckets : List (List (String × Json))}
      (hItems : buckets? depth aggregations = some items)
      (hBucket : items[place]? = some (.obj bucket))
      (hInside : LeadsTo (depth + 1) bucket path buckets) :
      LeadsTo depth aggregations (place :: path) (bucket :: buckets)

/-- A path through so many levels, the first of them at a given depth. -/
def IsPath (count depth : Nat) (aggregations : List (String × Json)) (path : List Nat) : Prop :=
  path.length = count ∧ ∃ buckets, LeadsTo depth aggregations path buckets

/-- The rows are those of the paths, one for each in ascending order. -/
def Enumerates (isPath : List Nat → Prop) (hasRow : List Nat → PivotRow → Prop)
    (rows : List PivotRow) : Prop :=
  ∃ paths : List (List Nat), paths.Pairwise (· < ·) ∧ (∀ path, path ∈ paths ↔ isPath path) ∧
    List.Forall₂ hasRow paths rows

/-! ### Values -/

/-- The value of a series at a place: the number of documents for a plain count, otherwise what
stands at the end of the function's path in the aggregation of the place, or null if the path leads
nowhere. -/
def HasValue (aggregations : List (String × Json)) (documents index : Nat) (series : Series)
    (value : Json) : Prop :=
  (series.function = .count none → value = .nat documents) ∧
    (series.function ≠ .count none → ∃ answer,
      aggregations.lookup (seriesName index) = some answer ∧
        value = (answer.at? series.function.valuePath).getD .null)

/-- One value for each series with its place, in their order and under their ids. -/
def HasValues (aggregations : List (String × Json)) (documents : Nat)
    (series : List (Series × Nat)) (values : List (String × Json)) : Prop :=
  List.Forall₂ (fun placed value => value.1 = placed.1.id ∧
    HasValue aggregations documents placed.2 placed.1 value.2) series values

theorem hasValues_of_valuesFrom {searchType : String} {aggregations : List (String × Json)}
    {documents start : Nat} {series : List Series} {values : List (String × Json)}
    (h : valuesFrom searchType aggregations documents start series = .ok values) :
    HasValues aggregations documents (series.zipIdx start) values := by
  induction series generalizing start values with
  | nil =>
    rw [← Except.ok.inj h]
    exact .nil
  | cons first rest ih =>
    rw [List.zipIdx_cons]
    by_cases hCount : first.function = .count none
    · rw [valuesFrom_cons_of_count hCount] at h
      obtain ⟨others, hOthers, rfl⟩ := map_eq_ok.mp h
      exact .cons ⟨rfl, fun _ => rfl, fun hMetric => absurd hCount hMetric⟩ (ih hOthers)
    · cases hAnswer : aggregations.lookup (seriesName start) with
      | none =>
        rw [valuesFrom_cons_of_missing hCount hAnswer] at h
        contradiction
      | some answer =>
        rw [valuesFrom_cons_of_answer hCount hAnswer] at h
        obtain ⟨others, hOthers, rfl⟩ := map_eq_ok.mp h
        have hValue := metricValue_eq first.function answer
        exact .cons ⟨rfl, fun hPlain => absurd hPlain hCount, fun _ => ⟨answer, hAnswer, hValue⟩⟩
          (ih hOthers)

/-! ### Rows -/

/-- The values of all series in a bucket. -/
def OfBucket (series : List Series) (bucket values : List (String × Json)) : Prop :=
  ∃ documents, Counts bucket documents ∧ HasValues bucket documents series.zipIdx values

/-- The row of a path that starts inside of other buckets.  Its values are those of the last bucket
on the path, or of where the path starts if it has none. -/
structure IsRowBelow (series : List Series) (key : List String)
    (aggregations : List (String × Json)) (buckets : List (List (String × Json)))
    (row : PivotRow) : Prop where
  key : ∃ inner, row.key = key ++ inner ∧ List.Forall₂ HasKey buckets inner
  source : row.source = .leaf
  values : OfBucket series (buckets.getLastD aggregations) row.values

/-- A row belongs to a path that starts inside of other buckets. -/
def HasRow (series : List Series) (depth : Nat) (key : List String)
    (aggregations : List (String × Json)) (path : List Nat) (row : PivotRow) : Prop :=
  ∃ buckets, LeadsTo depth aggregations path buckets ∧
    IsRowBelow series key aggregations buckets row

/-- A path into one of some items that are counted from a place on, and how it goes on inside. -/
def Among {α : Type} (start : Nat) (items : List α) (inside : α → List Nat → Prop)
    (path : List Nat) : Prop :=
  ∃ place rest item, path = (start + place) :: rest ∧ items[place]? = some item ∧ inside item rest

theorem among_nil {α : Type} {start : Nat} {inside : α → List Nat → Prop} {path : List Nat} :
    ¬ Among start [] inside path := by
  simp [Among]

/-- A path goes into the first item or into one of the others. -/
theorem among_cons_iff {α : Type} {start : Nat} {first : α} {items : List α}
    {inside : α → List Nat → Prop} {path : List Nat} :
    Among start (first :: items) inside path ↔
      (∃ rest, path = start :: rest ∧ inside first rest) ∨
        Among (start + 1) items inside path := by
  have hShift (place : Nat) : start + 1 + place = start + (place + 1) := by omega
  constructor
  · rintro ⟨place, rest, item, rfl, hItem, hInside⟩
    cases place with
    | zero =>
      obtain rfl : first = item := Option.some.inj hItem
      exact .inl ⟨rest, rfl, hInside⟩
    | succ place => exact .inr ⟨place, rest, item, by rw [hShift], hItem, hInside⟩
  · rintro (⟨rest, rfl, hInside⟩ | ⟨place, rest, item, rfl, hItem, hInside⟩)
    · exact ⟨0, rest, first, rfl, rfl, hInside⟩
    · exact ⟨place + 1, rest, item, by rw [hShift], hItem, hInside⟩

/-- Paths into earlier items come first. -/
theorem cons_lt_of_among {α : Type} {start : Nat} {items : List α}
    {inside : α → List Nat → Prop} {other : List Nat} (h : Among (start + 1) items inside other)
    (rest : List Nat) : start :: rest < other := by
  obtain ⟨place, otherRest, -, rfl, -⟩ := h
  exact List.cons_lt_cons_iff.mpr (.inl (by omega))

/-- Rows of items next to each other are those of the items one after the other. -/
theorem enumerates_flatten {α : Type} {isPath : α → List Nat → Prop}
    {hasRow : α → List Nat → PivotRow → Prop} {items : List α} {results : List (List PivotRow)}
    (start : Nat)
    (h : List.Forall₂ (fun item rows => Enumerates (isPath item) (hasRow item) rows)
      items results) :
    Enumerates (Among start items isPath)
      (fun path row => Among start items (fun item rest => hasRow item rest row) path)
      results.flatten := by
  -- The places of the items that are left are counted on, and so stay those of the whole list.
  induction h generalizing start with
  | nil => exact ⟨[], .nil, fun path => by simp [among_nil], .nil⟩
  | @cons first firstRows items results hFirst hRest ih =>
    obtain ⟨paths, hOrder, hPaths, hRows⟩ := hFirst
    obtain ⟨others, hOtherOrder, hOtherPaths, hOtherRows⟩ := ih (start + 1)
    refine ⟨paths.map (start :: ·) ++ others, ?order, fun path => ?paths, ?rows⟩
    case order =>
      have hHere : (paths.map (start :: ·)).Pairwise (· < ·) :=
        List.pairwise_map.mpr (hOrder.imp fun hLt => List.cons_lt_cons_iff.mpr (.inr ⟨rfl, hLt⟩))
      refine List.pairwise_append.mpr ⟨hHere, hOtherOrder, fun path hPath other hOther => ?_⟩
      obtain ⟨rest, -, rfl⟩ := List.mem_map.mp hPath
      exact cons_lt_of_among ((hOtherPaths other).mp hOther) rest
    case paths =>
      have hHere : path ∈ paths.map (start :: ·) ↔
          ∃ rest, path = start :: rest ∧ isPath first rest := by
        simp only [List.mem_map, hPaths, and_comm, eq_comm]
      rw [List.mem_append, among_cons_iff, hHere, hOtherPaths]
    case rows =>
      refine List.rel_append (List.forall₂_map_left_iff.mpr ?_) ?_
      · exact hRows.imp fun rest row hRow => among_cons_iff.mpr (.inl ⟨rest, rfl, hRow⟩)
      · exact hOtherRows.imp fun path row hRow => among_cons_iff.mpr (.inr hRow)

theorem Enumerates.imp {isPath isOther : List Nat → Prop}
    {hasRow hasOther : List Nat → PivotRow → Prop} {rows : List PivotRow}
    (h : Enumerates isPath hasRow rows) (hPath : ∀ path, isPath path ↔ isOther path)
    (hRow : ∀ path row, isPath path → hasRow path row → hasOther path row) :
    Enumerates isOther hasOther rows := by
  obtain ⟨paths, hOrder, hPaths, hRows⟩ := h
  refine ⟨paths, hOrder, fun path => (hPaths path).trans (hPath path), ?_⟩
  exact forall₂_imp_of_mem (fun path hPath _ => hRow path _ ((hPaths path).mp hPath)) hRows

section Levels

variable {series : List Series} {count depth : Nat} {key : List String}
  {aggregations : List (String × Json)}

theorem isPath_succ_iff {items : List Json} {path : List Nat}
    (hItems : buckets? depth aggregations = some items) :
    IsPath (count + 1) depth aggregations path ↔
      Among 0 items (fun item rest =>
        ∃ bucket, item = .obj bucket ∧ IsPath count (depth + 1) bucket rest) path := by
  constructor
  · rintro ⟨hLength, buckets, hLeads⟩
    cases hLeads with
    | here => contradiction
    | @into _ place _ bucket others rest inner hOthers hBucket hInside =>
      obtain rfl : others = items := Option.some.inj (hOthers.symm.trans hItems)
      exact ⟨place, rest, _, by rw [Nat.zero_add], hBucket, bucket, rfl, Nat.succ.inj hLength,
        inner, hInside⟩
  · rintro ⟨place, rest, -, rfl, hBucket, bucket, rfl, hLength, inner, hInside⟩
    rw [Nat.zero_add]
    exact ⟨congrArg Nat.succ hLength, bucket :: inner, .into hItems hBucket hInside⟩

theorem hasRow_cons {items : List Json} {place : Nat} {rest : List Nat}
    {bucket : List (String × Json)} {row : PivotRow}
    (hItems : buckets? depth aggregations = some items)
    (hBucket : items[place]? = some (.obj bucket))
    (hRow : HasRow series (depth + 1) (key ++ [bucketKey bucket]) bucket rest row) :
    HasRow series depth key aggregations (place :: rest) row := by
  obtain ⟨buckets, hInside, ⟨inner, hKey, hEach⟩, hSource, hValues⟩ := hRow
  refine ⟨bucket :: buckets, .into hItems hBucket hInside, ?_, hSource, ?_⟩
  · refine ⟨bucketKey bucket :: inner, ?_, .cons (hasKey_bucketKey bucket) hEach⟩
    rw [hKey, List.append_assoc]
    rfl
  · rwa [List.getLastD_cons]

/-- The rows of the buckets of a level are those of the level. -/
theorem enumerates_level {items : List Json} {results : List (List PivotRow)}
    (hItems : buckets? depth aggregations = some items)
    (h : List.Forall₂ (fun item rows => ∃ bucket, item = .obj bucket ∧
      Enumerates (IsPath count (depth + 1) bucket)
        (HasRow series (depth + 1) (key ++ [bucketKey bucket]) bucket) rows) items results) :
    Enumerates (IsPath (count + 1) depth aggregations) (HasRow series depth key aggregations)
      results.flatten := by
  have hEach : List.Forall₂ (fun item rows => Enumerates
      (fun path => ∃ bucket, item = .obj bucket ∧ IsPath count (depth + 1) bucket path)
      (fun path row => ∃ bucket, item = .obj bucket ∧
        HasRow series (depth + 1) (key ++ [bucketKey bucket]) bucket path row) rows)
      items results := by
    refine h.imp fun item rows => ?_
    rintro ⟨bucket, rfl, hRows⟩
    refine hRows.imp (fun path => ?_) fun path row _ hRow => ⟨bucket, rfl, hRow⟩
    simp
  refine (enumerates_flatten 0 hEach).imp (fun path => (isPath_succ_iff hItems).symm) ?_
  rintro path row - ⟨place, rest, -, rfl, hBucket, bucket, rfl, hRow⟩
  rw [Nat.zero_add]
  exact hasRow_cons hItems hBucket hRow

/-- What a bucket of the innermost level gives is the one row of the path that ends there. -/
theorem enumerates_single {row : PivotRow} (h : IsRowBelow series key aggregations [] row) :
    Enumerates (IsPath 0 depth aggregations) (HasRow series depth key aggregations) [row] := by
  refine ⟨[[]], List.pairwise_singleton _ _, fun path => ?_, .cons ⟨[], .here, h⟩ .nil⟩
  rw [List.mem_singleton]
  constructor
  · rintro rfl
    exact ⟨rfl, [], .here⟩
  · exact fun hPath => List.length_eq_zero_iff.mp hPath.1

theorem enumerates_leafRows {searchType : String} {remaining : Nat} {rows : List PivotRow}
    (h : leafRows searchType series remaining depth key aggregations = .ok rows) :
    Enumerates (IsPath (remaining + 1) depth aggregations) (HasRow series depth key aggregations)
      rows := by
  -- On the levels that are left below.  Each bucket hands its own key down, and at the last level
  -- its row is a list of one row, so that both cases are about a list of rows for each bucket.
  induction remaining generalizing depth key aggregations rows with
  | zero =>
    simp only [leafRows, bind_eq_ok, bucketsAt_eq_ok_iff, mapM_eq_ok_iff, asBucket_eq_ok_iff,
      pure_eq_ok] at h
    obtain ⟨items, hItems, hRows⟩ := h
    rw [← List.flatMap_singleton' rows]
    refine enumerates_level hItems (List.forall₂_map_right_iff.mpr (hRows.imp fun item row => ?_))
    rintro ⟨bucket, rfl, values, hValues, rfl⟩
    have hOwn : OfBucket series bucket values :=
      ⟨documentCount bucket, counts_documentCount bucket, hasValues_of_valuesFrom hValues⟩
    exact ⟨bucket, rfl, enumerates_single ⟨⟨[], (List.append_nil _).symm, .nil⟩, rfl, hOwn⟩⟩
  | succ remaining ih =>
    simp only [leafRows, bind_eq_ok, bucketsAt_eq_ok_iff, mapM_eq_ok_iff, asBucket_eq_ok_iff,
      pure_eq_ok] at h
    obtain ⟨items, hItems, results, hResults, rfl⟩ := h
    refine enumerates_level hItems (hResults.imp fun item rows => ?_)
    rintro ⟨bucket, rfl, hRows⟩
    exact ⟨bucket, rfl, ih hRows⟩

end Levels

/-! ### All rows -/

/-- The row of a path from the whole result to an innermost bucket: the keys of the buckets on it
from the outside inwards, and the values of the last one. -/
def IsLeafRow (series : List Series) (aggregations : List (String × Json)) (path : List Nat)
    (row : PivotRow) : Prop :=
  ∃ around bucket, LeadsTo 0 aggregations path (around ++ [bucket]) ∧
    List.Forall₂ HasKey (around ++ [bucket]) row.key ∧ row.source = .leaf ∧
    OfBucket series bucket row.values

/-- The row of the whole result. -/
structure IsRollup (pivot : Pivot) (response : Response) (row : PivotRow) : Prop where
  key : row.key = []
  source : row.source = .rollup
  values : HasValues response.aggregations response.total pivot.series.zipIdx row.values

/-- The number of grouping fields of all row groups. -/
def levelCount (pivot : Pivot) : Nat :=
  (pivot.rowGroups.flatMap RowGroup.fields).length

theorem length_levels (pivot : Pivot) : pivot.levels.length = pivot.levelCount := by
  simp [levels, levelCount, List.length_flatMap]

theorem wantsRollup_iff {pivot : Pivot} :
    pivot.wantsRollup = true ↔ pivot.rollup = true ∨ pivot.levelCount = 0 := by
  rw [← length_levels]
  simp [wantsRollup]

theorem LeadsTo.length_eq {depth : Nat} {aggregations : List (String × Json)} {path : List Nat}
    {buckets : List (List (String × Json))} (h : LeadsTo depth aggregations path buckets) :
    buckets.length = path.length := by
  induction h with
  | here => rfl
  | into _ _ _ ih => simp [ih]

theorem isLeafRow_of_hasRow {series : List Series} {aggregations : List (String × Json)}
    {path : List Nat} {row : PivotRow} (hSome : path ≠ [])
    (h : HasRow series 0 [] aggregations path row) : IsLeafRow series aggregations path row := by
  obtain ⟨buckets, hLeads, ⟨inner, hKey, hEach⟩, hSource, hValues⟩ := h
  rcases List.eq_nil_or_concat' buckets with rfl | ⟨around, bucket, rfl⟩
  · exact absurd (List.length_eq_zero_iff.mp hLeads.length_eq.symm) hSome
  · rw [List.nil_append] at hKey
    rw [List.getLastD_concat] at hValues
    exact ⟨around, bucket, hLeads, hKey ▸ hEach, hSource, hValues⟩

/-- The rows of the innermost buckets come first, and there are none without levels. -/
theorem exists_leaves {searchType : String} {pivot : Pivot} {response : Response}
    {rows : List PivotRow} (h : pivot.rows searchType response = .ok rows) :
    ∃ leaves, Enumerates
        (fun path => path ≠ [] ∧ IsPath pivot.levelCount 0 response.aggregations path)
        (IsLeafRow pivot.series response.aggregations) leaves ∧
      (if pivot.wantsRollup then do
        let values ← valuesFrom searchType response.aggregations response.total 0 pivot.series
        return leaves ++ [⟨[], values, .rollup⟩]
      else return leaves : Attempt (List PivotRow)) = .ok rows := by
  rw [Pivot.rows, length_levels] at h
  cases hCount : pivot.levelCount with
  | zero =>
    rw [hCount] at h
    refine ⟨[], ⟨[], .nil, fun path => ?_, .nil⟩, h⟩
    simp only [List.not_mem_nil, false_iff, not_and]
    exact fun hSome hPath => hSome (List.length_eq_zero_iff.mp hPath.1)
  | succ remaining =>
    rw [hCount] at h
    obtain ⟨leaves, hLeaves, hRows⟩ := bind_eq_ok.mp h
    have hSome {path : List Nat} (hPath : IsPath (remaining + 1) 0 response.aggregations path) :
        path ≠ [] :=
      List.ne_nil_of_length_eq_add_one hPath.1
    refine ⟨leaves, (enumerates_leafRows hLeaves).imp (fun path => ?_) ?_, hRows⟩
    · exact (and_iff_right_of_imp hSome).symm
    · exact fun path row hPath hRow => isLeafRow_of_hasRow (hSome hPath) hRow

/-- The rows of a pivot are those of the innermost buckets, and behind them the one of the whole
result if it is wanted. -/
theorem rows_eq_ok {searchType : String} {pivot : Pivot} {response : Response}
    {rows : List PivotRow} (h : pivot.rows searchType response = .ok rows) :
    ∃ leaves rollup, rows = leaves ++ rollup ∧
      Enumerates (fun path => path ≠ [] ∧ IsPath pivot.levelCount 0 response.aggregations path)
        (IsLeafRow pivot.series response.aggregations) leaves ∧
      if pivot.rollup = true ∨ pivot.levelCount = 0 then
        ∃ row, rollup = [row] ∧ pivot.IsRollup response row
      else rollup = [] := by
  obtain ⟨leaves, hLeaves, hRows⟩ := exists_leaves h
  simp only [wantsRollup_iff] at hRows
  split
  · next hWants =>
    rw [if_pos hWants] at hRows
    obtain ⟨values, hValues, hPure⟩ := bind_eq_ok.mp hRows
    refine ⟨leaves, _, (pure_eq_ok.mp hPure).symm, hLeaves, _, rfl, rfl, rfl, ?_⟩
    exact hasValues_of_valuesFrom hValues
  · next hNot =>
    rw [if_neg hNot] at hRows
    refine ⟨leaves, [], ?_, hLeaves, rfl⟩
    rw [List.append_nil, pure_eq_ok.mp hRows]

/-- The keys of the row of a path are as many as the levels, and so there are some. -/
theorem key_of_enumerates {count : Nat} {series : List Series}
    {aggregations : List (String × Json)} {leaves : List PivotRow} {row : PivotRow}
    (h : Enumerates (fun path => path ≠ [] ∧ IsPath count 0 aggregations path)
      (IsLeafRow series aggregations) leaves) (hRow : row ∈ leaves) :
    row.key.length = count ∧ row.key ≠ [] := by
  obtain ⟨paths, -, hPaths, hRows⟩ := h
  obtain ⟨path, hPath, around, bucket, hLeads, hKey, -⟩ := exists_mem_of_forall₂ hRows hRow
  obtain ⟨-, hLength, -⟩ := (hPaths path).mp hPath
  have hKeys : row.key.length = around.length + 1 := by
    rw [← hKey.length_eq, List.length_append, List.length_singleton]
  constructor
  · rw [← hKey.length_eq, hLeads.length_eq, hLength]
  · exact List.ne_nil_of_length_eq_add_one hKeys

end Pivot

/-- The rows of a pivot that has a result.  There is one for each path through all levels of
buckets, in the order in which a walk into the buckets meets them, with the keys of the buckets on
the path and the values of the last.  Behind these comes a row for the whole result, if it is wanted
or if there are no levels; it is the only row without keys. -/
theorem Handler.pivot_rows_enumerate_buckets {id : String} {name : Option String}
    {streams : NameSet} {pivot : Pivot} {response : Response} {result : SearchResult}
    (h : Handler.result ⟨.pivot⟩ { id, name, streams, detail := .pivot pivot } response =
      .ok result) :
    ∃ leaves rollup, result.content = .pivot (leaves ++ rollup) ∧
      Pivot.Enumerates
        (fun path => path ≠ [] ∧ Pivot.IsPath pivot.levelCount 0 response.aggregations path)
        (Pivot.IsLeafRow pivot.series response.aggregations) leaves ∧
      (∀ row ∈ leaves, row.key.length = pivot.levelCount ∧ row.key ≠ []) ∧
      if pivot.rollup = true ∨ pivot.levelCount = 0 then
        ∃ row, rollup = [row] ∧ pivot.IsRollup response row
      else rollup = [] := by
  obtain ⟨-, -, hResult⟩ := bind_eq_ok.mp h
  obtain ⟨content, hContent, hPure⟩ := bind_eq_ok.mp hResult
  obtain ⟨rows, hRows, rfl⟩ := map_eq_ok.mp hContent
  obtain ⟨leaves, rollup, rfl, hLeaves, hRollup⟩ := Pivot.rows_eq_ok hRows
  rw [← pure_eq_ok.mp hPure]
  exact ⟨leaves, rollup, rfl, hLeaves, fun _ => Pivot.key_of_enumerates hLeaves, hRollup⟩

/-- Two levels, with two buckets inside of the first one and none inside of the second.  One of the
innermost buckets has a key meant for display, the other has neither a number of documents nor a
latest document. -/
theorem Handler.pivot_rows_enumerate_buckets_of_two_levels :
    let pivot : Pivot :=
      { rowGroups := [{ fields := ["source"] }, { fields := ["level"] }]
        series := [⟨"count()", none, .count none⟩, ⟨"avg(took)", none, .metric .avg "took"⟩,
          ⟨"latest(host)", none, .metric .latest "host"⟩] }
    let level (name : String) (buckets : List Json) : String × Json :=
      (name, .obj [("buckets", .arr buckets)])
    let answers (average : Int) (latest : List Json) : List (String × Json) :=
      [("series-1", .obj [("value", .int average)]),
        ("series-2", .obj [("hits", .obj [("hits", .arr latest)])])]
    let hit (host : String) : Json := .obj [("_source", .obj [("host", .str host)])]
    let response : Response :=
      { total := 30
        aggregations := [
          level "agg-0" [
            .obj [level "agg-1" [
                .obj ([("doc_count", .nat 20), ("key", .nat 4), ("key_as_string", .str "warning")]
                  ++ answers 12 [hit "a"]),
                .obj ([("doc_count", .str "few"), ("key", .nat 3)] ++ answers 5 [])],
              ("doc_count", .nat 22), ("key", .str "web-1")],
            .obj [level "agg-1" [], ("doc_count", .nat 8), ("key", .str "web-2")]]]
          ++ answers 9 [hit "b"] }
    let values (count average : Nat) (host : Json) : List (String × Json) :=
      [("count()", .nat count), ("avg(took)", .nat average), ("latest(host)", host)]
    let leaves : List PivotRow :=
      [⟨["web-1", "warning"], values 20 12 (.str "a"), .leaf⟩,
        ⟨["web-1", "3"], values 0 5 .null, .leaf⟩]
    let rollup : PivotRow := ⟨[], values 30 9 (.str "b"), .rollup⟩
    ∃ result, Handler.result ⟨.pivot⟩ { id := "table", detail := .pivot pivot } response =
        .ok result ∧
      result.content = .pivot (leaves ++ [rollup]) ∧
      Pivot.Enumerates (fun path => path ≠ [] ∧ Pivot.IsPath 2 0 response.aggregations path)
        (Pivot.IsLeafRow pivot.series response.aggregations) leaves ∧
      (∀ row ∈ leaves, row.key.length = 2 ∧ row.key ≠ []) ∧
      pivot.IsRollup response rollup := by
  intro pivot level answers hit response values leaves rollup
  obtain ⟨result, hResult, hRows⟩ : ∃ result,
      Handler.result ⟨.pivot⟩ { id := "table", detail := .pivot pivot } response = .ok result ∧
        result.content = .pivot (leaves ++ [rollup]) :=
    ⟨_, rfl, by with_unfolding_all rfl⟩
  obtain ⟨found, others, hContent, hLeaves, hKeys, hRollup⟩ := pivot_rows_enumerate_buckets hResult
  rw [if_pos (.inl rfl)] at hRollup
  obtain ⟨whole, rfl, hWhole⟩ := hRollup
  have hSame : found ++ [whole] = leaves ++ [rollup] :=
    ResultContent.pivot.inj (hContent.symm.trans hRows)
  obtain ⟨rfl, hLast⟩ := List.append_inj' hSame rfl
  rw [List.singleton_inj.mp hLast] at hWhole
  exact ⟨result, hResult, hRows, hLeaves, hKeys, hWhole⟩

end LogSearch
