import Mathlib.Data.List.Basic
import LogSearch.Proofs.ReadBackSearchTypes
import LogSearch.Proofs.Records
import LogSearch.Proofs.SearchTypes
import LogSearch.Proofs.WrittenNumbers

/-!
# The ids of series that declare none

A series without an id of its own is named by the text of its function, in which
nothing is escaped: fields may hold parentheses, commas and numbers.  The text can
be taken apart all the same (`literal_inj`).  No kind has a parenthesis in its tag,
so that the first one ends it, and the rank of a percentile has no comma, so that
the last one precedes it.  What is left is the field, and a count of all documents
is told from the count of a field because fields are not blank.

So the series of a pivot that declare no ids are refused as repeated if and only
if two of them compute the same, provided that the row groups are accepted, which
are looked at first (`derived_ids_exact`).
-/

namespace LogSearch

/-! ### The text of a function -/

/-- Texts around the first of some character are found again. -/
theorem append_cons_inj {c : Char} {before after before' after' : List Char} (h : c ∉ before)
    (h' : c ∉ before') :
    before ++ c :: after = before' ++ c :: after' ↔ before = before' ∧ after = after' := by
  constructor
  · induction before generalizing before' with
    | nil =>
      cases before' with
      | nil => exact fun hEqual => ⟨rfl, (List.cons.inj hEqual).2⟩
      | cons first rest =>
        intro hEqual
        exact absurd ((List.cons.inj hEqual).1 ▸ List.mem_cons_self) h'
    | cons first rest ih =>
      cases before' with
      | nil =>
        intro hEqual
        exact absurd ((List.cons.inj hEqual).1 ▸ List.mem_cons_self) h
      | cons first' rest' =>
        intro hEqual
        obtain ⟨rfl, hRest⟩ := List.cons.inj hEqual
        obtain ⟨rfl, rfl⟩ := ih (fun hMem => h (List.mem_cons_of_mem _ hMem))
          (fun hMem => h' (List.mem_cons_of_mem _ hMem)) hRest
        exact ⟨rfl, rfl⟩
  · rintro ⟨rfl, rfl⟩
    rfl

theorem SeriesKind.tag_inj {kind other : SeriesKind} (h : kind.tag = other.tag) : kind = other := by
  have hSame := congrArg ofTag? h
  rwa [ofTag?_tag, ofTag?_tag, Option.some.injEq] at hSame

theorem SeriesKind.paren_not_mem_tag (kind : SeriesKind) : '(' ∉ kind.tag.toList := by
  cases kind with
  | count => decide
  | metric m => cases m <;> decide
  | percentile => decide

namespace SeriesDraft

/-- Percentiles are finite numbers. -/
theorem isFinite_of_isPercentile {rank : Binary64} (h : isPercentile rank = true) :
    rank.isFinite = true := by
  have hHundred : (Binary64.ofInt 100).bits.toNat < Binary64.infinityWord := by decide +kernel
  have hSign : Binary64.infinityWord < Binary64.signUnit := by decide
  simp only [isPercentile, Bool.and_eq_true, decide_eq_true_eq] at h
  have hWord : rank.magnitudeWord = rank.bits.toNat := Nat.mod_eq_of_lt (by omega)
  simp only [Binary64.isFinite, hWord, decide_eq_true_eq]
  omega

end SeriesDraft

namespace SeriesFunction

/-- A function as series have it: its field is not blank, and its rank is one of a percentile. -/
structure Usable (function : SeriesFunction) : Prop where
  field : ∀ field, function.field? = some field → Text.isBlankText field = false
  rank : ∀ rank, function.rank? = some rank → SeriesDraft.isPercentile rank = true

/-- What stands between the parentheses of a function's text. -/
def arguments : SeriesFunction → List Char
  | .percentile field rank => field.toList ++ ',' :: rank.plainText.toList
  | function => (function.field?.getD "").toList

theorem toList_literal (function : SeriesFunction) :
    function.literal.toList =
      function.kind.tag.toList ++ '(' :: (function.arguments ++ [')']) := by
  cases function <;> simp [literal, arguments, kind, SeriesKind.tag]

variable {function other : SeriesFunction}

theorem kind_and_arguments_of_literal (h : function.literal = other.literal) :
    function.kind = other.kind ∧ function.arguments = other.arguments := by
  have hLists := congrArg String.toList h
  rw [toList_literal, toList_literal,
    append_cons_inj function.kind.paren_not_mem_tag other.kind.paren_not_mem_tag] at hLists
  obtain ⟨hTag, hRest⟩ := hLists
  exact ⟨SeriesKind.tag_inj (String.toList_injective hTag), List.append_cancel_right hRest⟩

/-- The last comma is the one in front of the rank. -/
theorem percentile_arguments_inj {field field' : String} {rank rank' : Binary64}
    (hRank : rank.isFinite) (hRank' : rank'.isFinite)
    (h : arguments (.percentile field rank) = arguments (.percentile field' rank')) :
    field = field' ∧ rank = rank' := by
  have hNoComma {rank : Binary64} (hFinite : rank.isFinite) :
      ',' ∉ rank.plainText.toList.reverse := fun hMem => by
    simpa using Binary64.mem_plainText hFinite (List.mem_reverse.mp hMem)
  have hReversed := congrArg List.reverse h
  simp only [arguments, List.reverse_append, List.reverse_cons, List.append_assoc,
    List.singleton_append] at hReversed
  rw [append_cons_inj (hNoComma hRank) (hNoComma hRank')] at hReversed
  obtain ⟨hText, hField⟩ := hReversed
  exact ⟨String.toList_injective (List.reverse_injective hField),
    (Binary64.plainText_inj hRank hRank').mp
      (String.toList_injective (List.reverse_injective hText))⟩

theorem field?_eq_of_getD {field? other? : Option String}
    (hField : ∀ field, field? = some field → Text.isBlankText field = false)
    (hOther : ∀ field, other? = some field → Text.isBlankText field = false)
    (h : field?.getD "" = other?.getD "") : field? = other? := by
  have hBlank : Text.isBlankText "" = true := rfl
  cases field? with
  | none =>
    cases other? with
    | none => rfl
    | some field =>
      rw [← (show "" = field from h)] at hOther
      exact absurd (hOther "" rfl) (by rw [hBlank]; decide)
  | some field =>
    cases other? with
    | none =>
      rw [(show field = "" from h)] at hField
      exact absurd (hField "" rfl) (by rw [hBlank]; decide)
    | some other => exact congrArg some h

/-- The text of a function determines the function. -/
theorem literal_inj (hFunction : function.Usable) (hOther : other.Usable) :
    function.literal = other.literal ↔ function = other := by
  refine ⟨fun h => ?_, congrArg literal⟩
  obtain ⟨hKind, hArguments⟩ := kind_and_arguments_of_literal h
  cases function with
  | count field? =>
    cases other with
    | count other? =>
      exact congrArg count (field?_eq_of_getD hFunction.field hOther.field
        (String.toList_injective hArguments))
    | metric m field => contradiction
    | percentile field rank => contradiction
  | metric m field =>
    cases other with
    | count other? => contradiction
    | metric m' field' =>
      obtain rfl := SeriesKind.metric.inj hKind
      exact congrArg (metric m) (String.toList_injective hArguments)
    | percentile field rank => contradiction
  | percentile field rank =>
    cases other with
    | count other? => contradiction
    | metric m field => contradiction
    | percentile field' rank' =>
      obtain ⟨rfl, rfl⟩ := percentile_arguments_inj
        (SeriesDraft.isFinite_of_isPercentile (hFunction.rank rank rfl))
        (SeriesDraft.isFinite_of_isPercentile (hOther.rank rank' rfl)) hArguments
      rfl

end SeriesFunction

/-! ### Series without an id of their own -/

namespace Series

/-- The fields of a series in the order of the array form. -/
def fieldNames : List String := ["type", "id", "field", "unit", "percentile"]

/-- What is read for the id of a series is what is held for it. -/
theorem says_id_of_asRecord {value : Json} {parts : Parts}
    (h : value.asRecord fields {} = .ok parts) :
    Json.Says (value.part? fieldNames "id") (Json.asOption Json.asText) none parts.id := by
  cases value with
  | obj entries =>
    obtain ⟨hRead, -⟩ := Json.asRecord_obj_eq_ok_iff.mp h
    obtain ⟨field, -, hRead⟩ := (Json.readPresent_set_eq_ok_iff rfl).mp hRead
    obtain ⟨id, hId, hRead⟩ := (Json.readPresent_set_eq_ok_iff rfl).mp hRead
    obtain ⟨percentile, -, hRead⟩ := (Json.readPresent_set_eq_ok_iff rfl).mp hRead
    obtain ⟨tag, -, hRead⟩ := (Json.readPresent_set_eq_ok_iff rfl).mp hRead
    obtain ⟨unit, -, hRead⟩ := (Json.readPresent_set_eq_ok_iff rfl).mp hRead
    obtain rfl := Except.ok.inj hRead
    exact hId
  | arr items =>
    have hItems : Json.readInOrder fields (items.drop 0) {} = .ok parts := h
    obtain ⟨-, tag, -, hRead⟩ := (Json.readInOrder_set_eq_ok_iff rfl).mp hItems
    obtain ⟨-, id, hId, hRead⟩ := (Json.readInOrder_set_eq_ok_iff rfl).mp hRead
    obtain ⟨-, field, -, hRead⟩ := (Json.readInOrder_set_eq_ok_iff rfl).mp hRead
    obtain ⟨-, unit, -, hRead⟩ := (Json.readInOrder_set_eq_ok_iff rfl).mp hRead
    obtain ⟨-, percentile, -, hRead⟩ := (Json.readInOrder_set_eq_ok_iff rfl).mp hRead
    obtain ⟨-, rfl⟩ := Json.readInOrder_nil_eq_ok_iff.mp hRead
    exact hId
  | _ => contradiction

/-- A series that has been built or read without an id of its own: none is declared, or an empty
one, which counts as none. -/
inductive Unnamed (series : Series) : Prop
  | built {draft : SeriesDraft} (hId : draft.id.getD "" = "") (h : draft.build = .ok series)
  | read {value : Json} (hId : value.part? fieldNames "id" ∈ [none, some .null, some (.str "")])
      (h : ofJson value = .ok series)

variable {series other : Series}

/-- Reading a series without an id builds it from a draft without an id. -/
theorem Unnamed.exists_draft (h : series.Unnamed) :
    ∃ draft : SeriesDraft, draft.id.getD "" = "" ∧ draft.build = .ok series := by
  cases h with
  | built hId h => exact ⟨_, hId, h⟩
  | read hId h =>
    simp only [ofJson, bind_eq_ok] at h
    obtain ⟨parts, hParts, draft, -, hBuild⟩ := h
    refine ⟨_, ?_, hBuild⟩
    have hSays := (Json.says_text_iff.mp (says_id_of_asRecord hParts)).2
    simp only [List.mem_cons, List.not_mem_nil, or_false] at hId
    rcases hId with hId | hId | hId <;> rw [hSays, hId] <;> rfl

theorem Unnamed.settled (h : series.Unnamed) : series.Settled := by
  obtain ⟨draft, -, hBuild⟩ := h.exists_draft
  exact SeriesDraft.settled_of_build hBuild

theorem Unnamed.usable (h : series.Unnamed) : series.function.Usable :=
  ⟨h.settled.field, h.settled.rank⟩

theorem Unnamed.id_eq (h : series.Unnamed) : series.id = series.function.literal := by
  obtain ⟨draft, hId, hBuild⟩ := h.exists_draft
  simp only [SeriesDraft.build, bind_eq_ok, pure_eq_ok] at hBuild
  obtain ⟨function, -, rfl⟩ := hBuild
  split
  · next id hSome =>
    obtain rfl : id = "" := by simpa [hSome] using hId
    rfl
  · rfl

/-- Series without ids of their own have the same id if and only if they compute the same. -/
theorem Unnamed.id_eq_id_iff (h : series.Unnamed) (hOther : other.Unnamed) :
    series.id = other.id ↔ series.function = other.function := by
  rw [h.id_eq, hOther.id_eq]
  exact SeriesFunction.literal_inj h.usable hOther.usable

end Series

/-! ### Pivots -/

/-- Two elements at different places share a key. -/
theorem not_pairwise_ne_iff {α β : Type} {key : α → β} {items : List α} :
    ¬ items.Pairwise (fun left right => key left ≠ key right) ↔
      ∃ i j : ℕ, i < j ∧ ∃ left right, items[i]? = some left ∧ items[j]? = some right ∧
        key left = key right := by
  rw [List.pairwise_iff_getElem]
  push Not
  constructor
  · rintro ⟨i, j, hI, hJ, hBefore, hSame⟩
    exact ⟨i, j, hBefore, _, _, List.getElem?_eq_getElem hI, List.getElem?_eq_getElem hJ, hSame⟩
  · rintro ⟨i, j, hBefore, left, right, hLeft, hRight, hSame⟩
    obtain ⟨hI, rfl⟩ := List.getElem?_eq_some_iff.mp hLeft
    obtain ⟨hJ, rfl⟩ := List.getElem?_eq_some_iff.mp hRight
    exact ⟨i, j, hI, hJ, hBefore, hSame⟩

namespace SearchType

/-- A pivot is refused for an id that two of its series share if that is all that is wrong. -/
theorem check_eq_duplicateSeries_iff {search : SearchType} {pivot : Pivot}
    (hPivot : search.detail = .pivot pivot) :
    (∃ id, search.check = .error (.invalid (.duplicateSeries id))) ↔
      (∀ group ∈ pivot.rowGroups, group.fields ≠ [] ∧ 0 < group.limit) ∧
        ¬ (pivot.series.map Series.id).Nodup := by
  rw [← any_refused_eq_false_iff, ← firstRepeated?_nil_eq_none_iff, check, hPivot]
  dsimp only
  cases pivot.rowGroups.any fun group => group.fields.isEmpty || group.limit == 0 with
  | true => simp
  | false =>
    cases firstRepeated? [] (pivot.series.map Series.id) with
    | none => simp
    | some id => simp

end SearchType

/-- Of series without ids of their own, equal functions stand for equal ids. -/
theorem nodup_ids_iff {series : List Series} (h : ∀ item ∈ series, item.Unnamed) :
    (series.map Series.id).Nodup ↔
      series.Pairwise fun left right => left.function ≠ right.function := by
  rw [List.Nodup, List.pairwise_map]
  exact List.Pairwise.iff_of_mem fun hLeft hRight =>
    ((h _ hLeft).id_eq_id_iff (h _ hRight)).not

/-- Series without ids of their own have the same id if and only if they compute the same, whatever
their fields are.  A pivot of such series is refused for repeated ids if and only if two of its
series compute the same and none of its row groups, which are looked at first, is refused. -/
theorem derived_ids_exact :
    (∀ left right : Series, left.Unnamed → right.Unnamed →
      (left.id = right.id ↔ left.function = right.function)) ∧
    ∀ (search : SearchType) (pivot : Pivot), search.detail = .pivot pivot →
      (∀ series ∈ pivot.series, series.Unnamed) →
        ((∃ id, search.check = .error (.invalid (.duplicateSeries id))) ↔
          (∀ group ∈ pivot.rowGroups, group.fields ≠ [] ∧ 0 < group.limit) ∧
            ∃ i j : ℕ, i < j ∧ ∃ left right : Series, pivot.series[i]? = some left ∧
              pivot.series[j]? = some right ∧ left.function = right.function) := by
  refine ⟨fun left right => Series.Unnamed.id_eq_id_iff, fun search pivot hPivot hUnnamed => ?_⟩
  rw [SearchType.check_eq_duplicateSeries_iff hPivot, nodup_ids_iff hUnnamed, not_pairwise_ne_iff]

/-- Percentiles of which the field of one ends in a number: their ids differ in a comma only, and a
pivot with both of them is not refused. -/
theorem derived_ids_exact_of_commas :
    let rank (num den : ℕ) := Binary64.ofRatio false num den
    let whole : SeriesDraft := { kind := .percentile, field := "took,9", percentile := rank 5 1 }
    let broken : SeriesDraft := { kind := .percentile, field := "took", percentile := rank 95 10 }
    ∃ left right : Series, whole.build = .ok left ∧ broken.build = .ok right ∧
      left.id = "percentile(took,9,5)" ∧ right.id = "percentile(took,9.5)" ∧
      ¬ ∃ id, SearchType.check { detail := .pivot { series := [left, right] } } =
        .error (.invalid (.duplicateSeries id)) := by
  intro rank whole broken
  let left : Series := ⟨"percentile(took,9,5)", none, .percentile "took,9" (rank 5 1)⟩
  let right : Series := ⟨"percentile(took,9.5)", none, .percentile "took" (rank 95 10)⟩
  have hLeft : whole.build = .ok left := by decide +kernel
  have hRight : broken.build = .ok right := by decide +kernel
  refine ⟨left, right, hLeft, hRight, rfl, rfl, fun hRefused => ?_⟩
  have hUnnamed : ∀ series ∈ [left, right], series.Unnamed := by
    intro series hSeries
    rcases List.mem_pair.mp hSeries with rfl | rfl
    · exact .built rfl hLeft
    · exact .built rfl hRight
  obtain ⟨-, i, j, hBefore, first, second, hFirst, hSecond, hSame⟩ :=
    (derived_ids_exact.2 _ { series := [left, right] } rfl hUnnamed).mp hRefused
  have hBound : j < 2 := (List.getElem?_eq_some_iff.mp hSecond).1
  obtain ⟨rfl, rfl⟩ : i = 0 ∧ j = 1 := by omega
  rw [← Option.some.inj hFirst, ← Option.some.inj hSecond] at hSame
  have hFields : "took,9" = "took" := (SeriesFunction.percentile.inj hSame).1
  contradiction

/-- A pivot counts twice over no field at all, and the row group is what it is refused for. -/
theorem duplicate_series_behind_row_group :
    let count : Series := ⟨"count()", none, .count none⟩
    let search : SearchType :=
      { detail := .pivot { rowGroups := [{ fields := [] }], series := [count, count] } }
    count.Unnamed ∧ search.check = .error (.invalid .emptyRowGroup) ∧
      ¬ ∃ id, search.check = .error (.invalid (.duplicateSeries id)) := by
  intro count search
  have hBuilt : SeriesDraft.build { kind := .count } = .ok count := by decide +kernel
  have hCheck : search.check = .error (.invalid .emptyRowGroup) := by decide +kernel
  refine ⟨.built rfl hBuilt, hCheck, ?_⟩
  rintro ⟨id, hRefused⟩
  have hSame := SearchError.invalid.inj (Except.error.inj (hCheck.symm.trans hRefused))
  contradiction

end LogSearch
