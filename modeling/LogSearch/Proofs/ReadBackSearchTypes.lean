import LogSearch.Proofs.ReadBack
import LogSearch.Proofs.SearchTypes

/-!
# Search types read back

The parts of search types are records of their own, each of which reads back as it
was.  A series is more than what is written of it: its id may have been made up from
its function, and blank fields and bad ranks were refused when it was built.  A
series that has been built, `Series.Settled`, is built again just so.

All variants of search types are read into one record, of which each variant writes
its own part.  `SearchType.Parts.In` says what an object tells of that record.
-/

namespace LogSearch

open Json

/-! ### Parts -/

theorem SortKey.ofJson_toJson (key : SortKey) : ofJson key.toJson = .ok key := by
  obtain ⟨field, direction⟩ := key
  cases direction <;> rfl

theorem RowGroup.ofJson_toJson (group : RowGroup) : ofJson group.toJson = .ok group := by
  refine asRecord_obj (by simp [parts]) ?_
  exact (readPresent_set (gives_value rfl (asList_texts group.fields)) rfl).trans <|
    readPresent_set (gives_value rfl (asWord_word group.limit)) rfl

theorem AttributeFilter.ofJson_toJson (filter : AttributeFilter) :
    ofJson filter.toJson = .ok filter := by
  have hNegated : asBool (.bool filter.negated) = .ok filter.negated := rfl
  refine asRecord_obj (by simp [fields]) ?_
  -- an object is read in ascending order of the names of its fields
  exact (readPresent_set (gives_text rfl) rfl).trans <|
    (readPresent_set (gives_value rfl hNegated) rfl).trans <|
    readPresent_set (gives_value rfl (asList_texts filter.values)) rfl

/-! ### Series -/

/-- The rank of a percentile. -/
def SeriesFunction.rank? : SeriesFunction → Option Binary64
  | .percentile _ rank => some rank
  | .count _ | .metric _ _ => none

/-- A series as it is when it has been built: with an id, without a blank field, and with a rank
that is one of a percentile. -/
structure Series.Settled (series : Series) : Prop where
  id : series.id ≠ ""
  field : ∀ field, series.function.field? = some field → Text.isBlankText field = false
  rank : ∀ rank, series.function.rank? = some rank → SeriesDraft.isPercentile rank = true

namespace SeriesDraft

theorem usableField_shown {draft : SeriesDraft} {field : String}
    (h : draft.usableField = some field) : Text.isBlankText field = false := by
  simpa using (Option.filter_eq_some_iff.mp h).2

theorem requireField_eq_ok {draft : SeriesDraft} {field : String}
    (h : draft.requireField = .ok field) : Text.isBlankText field = false := by
  unfold requireField at h
  split at h
  · next found hFound =>
    rw [← Except.ok.inj h]
    exact usableField_shown hFound
  · contradiction

theorem usableField_of_shown {draft : SeriesDraft} {field : String}
    (hField : draft.field = some field) (hShown : Text.isBlankText field = false) :
    draft.usableField = some field := by
  simp [usableField, hField, Option.filter_some, hShown]

theorem requireField_of_shown {draft : SeriesDraft} {field : String}
    (hField : draft.field = some field) (hShown : Text.isBlankText field = false) :
    draft.requireField = .ok field := by
  rw [requireField, usableField_of_shown hField hShown]

theorem literal_ne_empty (function : SeriesFunction) : function.literal ≠ "" := by
  intro h
  have hLength := congrArg String.length h
  cases function <;> simp [SeriesFunction.literal] at hLength

theorem settled_function {draft : SeriesDraft} {function : SeriesFunction}
    (h : draft.function = .ok function) :
    (∀ field, function.field? = some field → Text.isBlankText field = false) ∧
      ∀ rank, function.rank? = some rank → isPercentile rank = true := by
  unfold SeriesDraft.function at h
  split at h
  · rw [← Except.ok.inj h]
    exact ⟨fun field hField => usableField_shown hField, fun rank hRank => by contradiction⟩
  · obtain ⟨field, hField, rfl⟩ := map_eq_ok.mp h
    refine ⟨fun other hOther => ?_, fun rank hRank => by contradiction⟩
    rw [← Option.some.inj hOther]
    exact requireField_eq_ok hField
  · split at h
    · contradiction
    · next rank _ =>
      split at h
      · next hRank =>
        obtain ⟨field, hField, rfl⟩ := map_eq_ok.mp h
        refine ⟨fun other hOther => ?_, fun other hOther => ?_⟩
        · rw [← Option.some.inj hOther]
          exact requireField_eq_ok hField
        · rw [← Option.some.inj hOther]
          exact hRank
      · contradiction

theorem settled_of_build {draft : SeriesDraft} {series : Series} (h : draft.build = .ok series) :
    series.Settled := by
  simp only [build, bind_eq_ok, pure_eq_ok] at h
  obtain ⟨function, hFunction, rfl⟩ := h
  obtain ⟨hField, hRank⟩ := settled_function hFunction
  refine ⟨?_, hField, hRank⟩
  split
  · split
    · exact literal_ne_empty function
    · next hNamed => simpa using hNamed
  · exact literal_ne_empty function

end SeriesDraft

namespace Series

/-- The draft that declares a series again. -/
def toDraft (series : Series) : SeriesDraft where
  kind := series.function.kind
  id := some series.id
  field := series.function.field?
  unit := series.unit
  percentile := series.function.rank?

theorem function_toDraft {series : Series} (h : series.Settled) :
    series.toDraft.function = .ok series.function := by
  obtain ⟨-, hField, hRank⟩ := h
  obtain ⟨id, unit, function⟩ := series
  cases function with
  | count field =>
    show Except.ok (SeriesFunction.count _) = _
    cases field with
    | none => rfl
    | some field => rw [SeriesDraft.usableField_of_shown rfl (hField field rfl)]
  | metric metric field =>
    show Except.map _ (SeriesDraft.requireField _) = _
    rw [SeriesDraft.requireField_of_shown rfl (hField field rfl)]
    rfl
  | percentile field rank =>
    show (if SeriesDraft.isPercentile rank then
      Except.map _ (SeriesDraft.requireField _) else _) = _
    rw [if_pos (hRank rank rfl), SeriesDraft.requireField_of_shown rfl (hField field rfl)]
    rfl

theorem build_toDraft {series : Series} (h : series.Settled) :
    series.toDraft.build = .ok series := by
  have hNamed : series.id.isEmpty = false := by simpa using h.id
  rw [SeriesDraft.build, function_toDraft h]
  show Except.ok _ = _
  simp [toDraft, hNamed]

theorem asRecord_toJson (series : Series) :
    series.toJson.asRecord fields {} = .ok
      { tag := series.function.kind.tag, id := some series.id, field := series.function.field?
        unit := series.unit, percentile := series.function.rank? } := by
  obtain ⟨id, unit, function⟩ := series
  cases function with
  | count field => cases unit <;> cases field <;> rfl
  | metric metric field => cases unit <;> rfl
  | percentile field rank => cases unit <;> rfl

theorem settled_of_ofJson {value : Json} {series : Series} (h : ofJson value = .ok series) :
    series.Settled := by
  obtain ⟨parts, -, hBuilt⟩ := bind_eq_ok.mp h
  obtain ⟨draft, -, hBuild⟩ := bind_eq_ok.mp hBuilt
  exact SeriesDraft.settled_of_build hBuild

theorem ofJson_toJson {series : Series} (h : series.Settled) :
    ofJson series.toJson = .ok series := by
  rw [ofJson, asRecord_toJson]
  show (SeriesDraft.ofTag series.function.kind.tag >>= _) = _
  rw [SeriesDraft.ofTag, SeriesKind.ofTag?_tag]
  exact build_toDraft h

end Series

/-! ### Search types -/

namespace SearchType

/-- An object tells what all variants have in common. -/
structure Parts.HeadIn (entries : List (String × Json)) (parts : Parts) : Prop where
  tag : entries.lookup "type" = some (.str parts.tag)
  id : Gives entries "id" (asOption asText) none parts.id
  name : Gives entries "name" (asOption asText) none parts.name
  streams : Gives entries "streams" asNames ∅ parts.streams

/-- An object tells what is particular to a variant, and nothing of the other variants. -/
structure Parts.DetailIn (entries : List (String × Json)) (parts : Parts) : Prop where
  limit : Gives entries "limit" (asOption asWord) none parts.limit
  offset : Gives entries "offset" (asOption asWord) none parts.offset
  sort : Gives entries "sort" (asList SortKey.ofJson) [] parts.sort
  attributes : Gives entries "attributes" (asList AttributeFilter.ofJson) [] parts.attributes
  page : Gives entries "page" (asOption asWord) none parts.page
  perPage : Gives entries "per_page" (asOption asWord) none parts.perPage
  rowGroups : Gives entries "row_groups" (asList RowGroup.ofJson) [] parts.rowGroups
  series : Gives entries "series" (asList Series.ofJson) [] parts.series
  rollup : Gives entries "rollup" (asOption asBool) none parts.rollup

section Records

variable {head detail : List (String × Json)} {parts : Parts}

/-- The names of the fields that all variants have. -/
def headNames : List String := ["type", "id", "name", "streams"]

/-- The names of the fields that only some variants have. -/
def detailNames : List String :=
  ["limit", "offset", "sort", "attributes", "page", "per_page", "row_groups", "series", "rollup"]

theorem asRecord_of_in (hHead : parts.HeadIn head) (hDetail : parts.DetailIn detail)
    (hHeadOnly : ∀ name ∈ detailNames, head.lookup name = none)
    (hDetailOnly : ∀ name ∈ headNames, detail.lookup name = none) :
    (Json.obj (head ++ detail)).asRecord fields {} = .ok parts := by
  have hLeft {β : Type} {read : Json → Attempt β} {absent found : β} {name : String}
      (h : Gives head name read absent found) (hName : name ∈ headNames) :
      Gives (head ++ detail) name read absent found :=
    h.append_left (hDetailOnly name hName)
  have hRight {β : Type} {read : Json → Attempt β} {absent found : β} {name : String}
      (h : Gives detail name read absent found) (hName : name ∈ detailNames) :
      Gives (head ++ detail) name read absent found :=
    h.append_right (hHeadOnly name hName)
  have hTag : (head ++ detail).lookup "type" = some (.str parts.tag) := by
    rw [List.lookup_append, hHead.tag, Option.some_or]
  refine asRecord_obj (by simp [fields, hTag, -List.lookup_eq_none_iff]) ?_
  exact (readPresent_set (hRight hDetail.attributes (by decide)) rfl).trans <|
    (readPresent_set (hLeft hHead.id (by decide)) rfl).trans <|
    (readPresent_set (hRight hDetail.limit (by decide)) rfl).trans <|
    (readPresent_set (hLeft hHead.name (by decide)) rfl).trans <|
    (readPresent_set (hRight hDetail.offset (by decide)) rfl).trans <|
    (readPresent_set (hRight hDetail.page (by decide)) rfl).trans <|
    (readPresent_set (hRight hDetail.perPage (by decide)) rfl).trans <|
    (readPresent_set (hRight hDetail.rollup (by decide)) rfl).trans <|
    (readPresent_set (hRight hDetail.rowGroups (by decide)) rfl).trans <|
    (readPresent_set (hRight hDetail.series (by decide)) rfl).trans <|
    (readPresent_set (hRight hDetail.sort (by decide)) rfl).trans <|
    (readPresent_set (hLeft hHead.streams (by decide)) rfl).trans <|
    readPresent_set (gives_text hTag) rfl

end Records

/-- The series of a pivot have been built. -/
def Settled (search : SearchType) : Prop :=
  ∀ pivot, search.detail = .pivot pivot → ∀ series ∈ pivot.series, series.Settled

/-- What the JSON form of a search type says about the fields of all variants. -/
def writtenParts (search : SearchType) : Parts :=
  let common : Parts :=
    { tag := search.kind.tag, id := some search.id, name := search.name
      streams := search.streams }
  match search.detail with
  | .messages list =>
    { common with limit := some list.limit, offset := some list.offset, sort := list.sort }
  | .events list =>
    { common with
      attributes := list.attributes, page := list.page, perPage := list.perPage
      sort := list.sort }
  | .pivot pivot =>
    { common with
      rowGroups := pivot.rowGroups, series := pivot.series, rollup := some pivot.rollup }

theorem asOption_word (n : UInt32) : asOption asWord (word n) = .ok (some n) :=
  asOption_of_read (by simp [word]) (asWord_word n)

theorem detailIn_detailFields {search : SearchType} (hSettled : search.Settled) :
    search.writtenParts.DetailIn (detailFields search.detail) := by
  obtain ⟨id, name, streams, detail⟩ := search
  cases detail with
  | messages list =>
    have hAbsent : ∀ name ∈ ["attributes", "page", "per_page", "row_groups", "series", "rollup"],
        (detailFields (.messages list)).lookup name = none := by
      simp [detailFields, List.lookup_cons, -List.lookup_eq_none_iff]
    have hSort : (detailFields (.messages list)).lookup "sort" =
        if list.sort.isEmpty then none else some (.arr (list.sort.map SortKey.toJson)) := by
      simp [detailFields, List.lookup_cons]
    exact {
      limit := gives_value rfl (asOption_word list.limit)
      offset := gives_value rfl (asOption_word list.offset)
      sort := gives_list hSort fun key _ => key.ofJson_toJson
      attributes := gives_absent (hAbsent _ (by decide)) []
      page := gives_absent (hAbsent _ (by decide)) none
      perPage := gives_absent (hAbsent _ (by decide)) none
      rowGroups := gives_absent (hAbsent _ (by decide)) []
      series := gives_absent (hAbsent _ (by decide)) []
      rollup := gives_absent (hAbsent _ (by decide)) none }
  | events list =>
    have hAbsent : ∀ name ∈ ["limit", "offset", "row_groups", "series", "rollup"],
        (detailFields (.events list)).lookup name = none := by
      simp [detailFields, List.lookup_append, -List.lookup_eq_none_iff]
    have hLists : (detailFields (.events list)).lookup "attributes" =
          (if list.attributes.isEmpty then none
            else some (.arr (list.attributes.map AttributeFilter.toJson))) ∧
        (detailFields (.events list)).lookup "sort" =
          if list.sort.isEmpty then none else some (.arr (list.sort.map SortKey.toJson)) := by
      simp [detailFields, List.lookup_append]
    have hPages : (detailFields (.events list)).lookup "page" = list.page.map word ∧
        (detailFields (.events list)).lookup "per_page" = list.perPage.map word := by
      simp [detailFields, List.lookup_append]
    exact {
      limit := gives_absent (hAbsent _ (by decide)) none
      offset := gives_absent (hAbsent _ (by decide)) none
      sort := gives_list hLists.2 fun key _ => key.ofJson_toJson
      attributes := gives_list hLists.1 fun filter _ => filter.ofJson_toJson
      page := gives_option hPages.1 fun page _ => ⟨by simp [word], asWord_word page⟩
      perPage := gives_option hPages.2 fun perPage _ => ⟨by simp [word], asWord_word perPage⟩
      rowGroups := gives_absent (hAbsent _ (by decide)) []
      series := gives_absent (hAbsent _ (by decide)) []
      rollup := gives_absent (hAbsent _ (by decide)) none }
  | pivot pivot =>
    exact {
      limit := gives_absent rfl none
      offset := gives_absent rfl none
      sort := gives_absent rfl []
      attributes := gives_absent rfl []
      page := gives_absent rfl none
      perPage := gives_absent rfl none
      rowGroups := gives_value rfl (asList_map fun group _ => group.ofJson_toJson)
      series := gives_value rfl (asList_map fun series hMem =>
        Series.ofJson_toJson (hSettled pivot rfl series hMem))
      rollup := gives_value rfl rfl }

theorem asRecord_toJson {search : SearchType} (hSettled : search.Settled) :
    search.toJson.asRecord fields {} = .ok search.writtenParts := by
  have hCommon : search.writtenParts.tag = search.kind.tag ∧
      search.writtenParts.id = some search.id ∧ search.writtenParts.name = search.name ∧
      search.writtenParts.streams = search.streams := by
    unfold writtenParts
    cases search.detail <;> exact ⟨rfl, rfl, rfl, rfl⟩
  obtain ⟨hTag, hId, hName, hStreams⟩ := hCommon
  refine asRecord_of_in ?_ (detailIn_detailFields hSettled) ?_ ?_
  · refine ⟨?_, ?_, ?_, ?_⟩
    · rw [hTag]
      rfl
    · rw [hId]
      exact gives_value rfl rfl
    · rw [hName]
      have hRead (name : String) (_ : search.name = some name) :
          Json.str name ≠ .null ∧ asText (.str name) = .ok name := ⟨by simp, rfl⟩
      refine gives_option ?_ hRead
      simp [List.lookup_append, List.lookup_cons]
    · rw [hStreams]
      refine gives_value ?_ (asNames_names search.streams)
      simp [List.lookup_append, List.lookup_cons]
  · simp [detailNames, List.lookup_append, List.lookup_cons, -List.lookup_eq_none_iff]
  · cases search.detail <;>
      simp [headNames, detailFields, List.lookup_append, List.lookup_cons, -List.lookup_eq_none_iff]

/-- A search type that makes sense is read back as it was, if its series have been built. -/
theorem ofJson_toJson {search : SearchType} (hValid : search.Valid)
    (hSettled : search.Settled) :
    ofJson search.toJson = .ok search := by
  have hParts : search.writtenParts.tag = search.kind.tag ∧
      { id := search.writtenParts.id.getD "", name := search.writtenParts.name
        streams := search.writtenParts.streams
        detail := detailOf search.writtenParts search.kind : SearchType } = search := by
    obtain ⟨id, name, streams, detail⟩ := search
    cases detail <;> exact ⟨rfl, rfl⟩
  have hKind : SearchKind.ofTag? search.writtenParts.tag = some search.kind := by
    rw [hParts.1, SearchKind.ofTag?_tag]
  refine bind_eq_ok.mpr ⟨search.writtenParts, asRecord_toJson hSettled, ?_⟩
  simp only [hKind, hParts.2]
  exact check_eq_ok_iff.mpr ⟨hValid, rfl⟩

/-- All series that have been read were built. -/
def Parts.Settled (parts : Parts) : Prop := ∀ series ∈ parts.series, series.Settled

theorem fields_keep_settled : ∀ field ∈ fields, field.Keeps Parts.Settled := by
  have hOther {β : Type} {name : String} {required : Bool} {read : Json → Attempt β}
      {set : Parts → β → Parts} (hSeries : ∀ parts found, (set parts found).series = parts.series) :
      Field.Keeps Parts.Settled
        ⟨name, required, fun parts value => do return set parts (← read value)⟩ := by
    refine Field.keeps_of_set fun parts value found hParts _ => ?_
    rw [Parts.Settled, hSeries]
    exact hParts
  have hSeries : Field.Keeps Parts.Settled ⟨"series", false, fun parts value => do
      return { parts with series := ← value.asList Series.ofJson }⟩ := by
    refine Field.keeps_of_set fun parts value found _ hRead series hMem => ?_
    obtain ⟨item, hItem⟩ := exists_of_asList hRead hMem
    exact Series.settled_of_ofJson hItem
  simp only [fields, List.forall_mem_cons]
  exact ⟨hOther fun _ _ => rfl, hOther fun _ _ => rfl, hOther fun _ _ => rfl,
    hOther fun _ _ => rfl, hOther fun _ _ => rfl, hOther fun _ _ => rfl, hOther fun _ _ => rfl,
    hOther fun _ _ => rfl, hOther fun _ _ => rfl, hOther fun _ _ => rfl, hOther fun _ _ => rfl,
    hSeries, hOther fun _ _ => rfl, by simp⟩

theorem settled_of_ofJson {value : Json} {search : SearchType} (h : ofJson value = .ok search) :
    search.Settled := by
  obtain ⟨parts, hParts, hChecked⟩ := bind_eq_ok.mp h
  have hStart : Parts.Settled {} := fun series hMem => by contradiction
  have hSettled : parts.Settled := asRecord_keeps fields_keep_settled hStart hParts
  split at hChecked
  · contradiction
  · next kind _ =>
    obtain ⟨-, rfl⟩ := check_eq_ok_iff.mp hChecked
    intro pivot hPivot series hSeries
    cases kind with
    | messages => contradiction
    | events => contradiction
    | pivot =>
      rw [← SearchDetail.pivot.inj hPivot] at hSeries
      exact hSettled series hSeries

end SearchType

end LogSearch
