import LogSearch.Proofs.Building
import LogSearch.Proofs.ReadBackSearchTypes
import LogSearch.Proofs.Timestamp

/-!
# Queries read back

What the JSON form of a query says is less than what there is to know of it.  That a
time range was checked, that the leaves of the filter tree have texts and that the
series of pivots were built is not written, and all of it is asked for again when
the query is read.  A query of which it is true, `Query.Settled`, is read back as it
was, from its own form and from the one it is exported in, and a query that has been
read is of this kind (`Query.settled_of_ofJson`).

The override that was applied to a query is the one thing that is lost.
-/

namespace LogSearch

open Json

/-! ### Texts and time ranges -/

theorem QueryText.ofJson_toJson (text : QueryText) : ofJson text.toJson = .ok text :=
  rfl

namespace TimeRange

/-- A time range as its constructor lets it through. -/
def Checked : TimeRange → Prop
  | .relative seconds => seconds ≤ maxWindow
  | .absolute start stop => start ≤ stop
  | .keyword text zone => keyword? text zone = .ok (.keyword text zone)

theorem checked_default : TimeRange.default.Checked := by
  show 300 ≤ maxWindow
  decide

theorem checked_of_relative? {seconds : Int} {range : TimeRange}
    (h : relative? seconds = .ok range) : range.Checked := by
  unfold relative? at h
  split at h
  · contradiction
  · obtain ⟨checked, hWindow, rfl⟩ := map_eq_ok.mp h
    have hChecked := mapError_eq_ok.mp hWindow
    unfold Keyword.checkWindow at hChecked
    split at hChecked
    · contradiction
    · next hFits =>
      rw [← Except.ok.inj hChecked]
      exact Nat.not_lt.mp hFits

theorem checked_of_absolute? {start stop : Instant} {range : TimeRange}
    (h : absolute? start stop = .ok range) : range.Checked := by
  unfold absolute? at h
  split at h
  · next hOrder =>
    rw [← Except.ok.inj h]
    exact hOrder
  · contradiction

theorem checked_of_keyword? {text : String} {zone : Option String} {range : TimeRange}
    (h : keyword? text zone = .ok range) : range.Checked := by
  have hSame : range = .keyword text zone := by
    obtain ⟨keyword, -, hZone⟩ := bind_eq_ok.mp h
    cases zone with
    | none => exact (Except.ok.inj hZone).symm
    | some name =>
      simp only at hZone
      split at hZone
      · exact (Except.ok.inj hZone).symm
      · contradiction
  rw [hSame] at h ⊢
  exact h

theorem checked_of_ofJson {value : Json} {range : TimeRange} (h : ofJson value = .ok range) :
    range.Checked := by
  obtain ⟨⟨tag, content⟩, -, hRange⟩ := bind_eq_ok.mp h
  simp only at hRange
  split at hRange
  · obtain ⟨seconds, -, hChecked⟩ := bind_eq_ok.mp hRange
    exact checked_of_relative? hChecked
  · obtain ⟨⟨start, stop⟩, -, hChecked⟩ := bind_eq_ok.mp hRange
    exact checked_of_absolute? hChecked
  · obtain ⟨⟨text, zone⟩, -, hChecked⟩ := bind_eq_ok.mp hRange
    exact checked_of_keyword? hChecked
  · contradiction

/-- A time range that one of the constructors or the reader has let through. -/
inductive Constructed (range : TimeRange) : Prop
  | relative {seconds : Int} (h : relative? seconds = .ok range)
  | absolute {start stop : Instant} (h : absolute? start stop = .ok range)
  | keyword {text : String} {zone : Option String} (h : keyword? text zone = .ok range)
  | read {value : Json} (h : ofJson value = .ok range)

theorem Constructed.checked {range : TimeRange} (h : range.Constructed) : range.Checked := by
  cases h with
  | relative h => exact checked_of_relative? h
  | absolute h => exact checked_of_absolute? h
  | keyword h => exact checked_of_keyword? h
  | read h => exact checked_of_ofJson h

theorem asInstant_timestamp (t : Instant) : (Json.str t.timestamp).asInstant = .ok t := by
  rw [asInstant, Instant.read?_timestamp]

/-- A time range that was let through is read back as it was. -/
theorem ofJson_toJson {range : TimeRange} (h : range.Checked) :
    ofJson range.toJson = .ok range := by
  cases range with
  | relative seconds =>
    have hFits : seconds ≤ maxWindow := h
    have hSigned : (Json.nat seconds).asSigned = .ok seconds := by
      have hRange : minSigned64 ≤ (seconds : Int) ∧ (seconds : Int) ≤ (maxSigned64 : Nat) := by
        have hMax : maxWindow ≤ maxSigned64 := by decide
        have hMin : minSigned64 ≤ 0 := by decide
        omega
      rw [asSigned, Json.nat, asIntIn, if_pos hRange]
    have hRead : (TimeRange.relative seconds).toJson.asRecord relativeFields 0 =
        .ok (seconds : Int) := by
      refine asRecord_obj (by simp [relativeFields]) ?_
      show (asSigned (Json.nat seconds) >>= fun record => Except.ok record) = _
      rw [hSigned]
      rfl
    have hChecked : relative? seconds = .ok (.relative seconds) := by
      have hNonnegative : ¬ (seconds : Int) < 0 := by omega
      rw [relative?, if_neg hNonnegative, Int.toNat_natCast, Keyword.checkWindow,
        if_neg (Nat.not_lt.mpr hFits)]
      rfl
    refine bind_eq_ok.mpr ⟨("relative", (TimeRange.relative seconds).toJson), rfl, ?_⟩
    exact bind_eq_ok.mpr ⟨seconds, hRead, hChecked⟩
  | absolute start stop =>
    have hOrder : start ≤ stop := h
    have hRead : (TimeRange.absolute start stop).toJson.asRecord absoluteFields
        (.epoch, .epoch) = .ok (start, stop) := by
      refine asRecord_obj (by simp [absoluteFields]) ?_
      exact (readPresent_set (gives_value rfl (asInstant_timestamp start)) rfl).trans <|
        readPresent_set (gives_value rfl (asInstant_timestamp stop)) rfl
    refine bind_eq_ok.mpr ⟨("absolute", (TimeRange.absolute start stop).toJson), rfl, ?_⟩
    exact bind_eq_ok.mpr ⟨(start, stop), hRead, if_pos hOrder⟩
  | keyword text zone =>
    have hChecked : keyword? text zone = .ok (.keyword text zone) := h
    have hRead : (TimeRange.keyword text zone).toJson.asRecord keywordFields ("", none) =
        .ok (text, zone) := by
      cases zone <;> rfl
    refine bind_eq_ok.mpr ⟨("keyword", (TimeRange.keyword text zone).toJson), rfl, ?_⟩
    exact bind_eq_ok.mpr ⟨(text, zone), hRead, hChecked⟩

end TimeRange

/-! ### Search filters -/

theorem SearchFilter.ofJson_toJson (filter : SearchFilter) : ofJson filter.toJson = .ok filter := by
  cases filter with
  | inline title description text negated disabled => cases title <;> cases description <;> rfl
  | stored id negated disabled => rfl

/-! ### Filter trees -/

namespace Filter

/-- All leaves have a text. -/
inductive Labelled : Filter → Prop
  | and {children : List Filter} (hEach : ∀ child ∈ children, Labelled child) :
      Labelled (.and children)
  | or {children : List Filter} (hEach : ∀ child ∈ children, Labelled child) :
      Labelled (.or children)
  | stream {id : String} (h : id ≠ "") : Labelled (.stream id)
  | category {name : String} (h : name ≠ "") : Labelled (.category name)
  | queryString {query : String} (h : query ≠ "") : Labelled (.queryString query)

theorem Labelled.and_distinct {filters : List Filter}
    (hEach : ∀ child ∈ filters, child.Labelled) : (Filter.and (distinct filters)).Labelled :=
  .and fun child hChild => hEach child (mem_distinct.mp hChild)

theorem Labelled.or_distinct {filters : List Filter}
    (hEach : ∀ child ∈ filters, child.Labelled) : (Filter.or (distinct filters)).Labelled :=
  .or fun child hChild => hEach child (mem_distinct.mp hChild)

theorem listOfJson_listToJson {filters : List Filter}
    (h : ∀ filter ∈ filters, ofJson filter.toJson = .ok filter) :
    listOfJson (listToJson filters) = .ok filters := by
  induction filters with
  | nil => rfl
  | cons first rest ih =>
    obtain ⟨hFirst, hRest⟩ := List.forall_mem_cons.mp h
    rw [listToJson, listOfJson, hFirst, ih hRest]
    rfl

theorem requireText_of_ne_empty {kind : FilterKind} {field text : String} (h : text ≠ "") :
    requireText kind field (some text) = .ok text := by
  simp [requireText, h]

/-- What an object tells of a filter, given what the list of its children is read as. -/
theorem ofJson_of_gives {entries : List (String × Json)} {parts : Parts}
    (hChildren : childrenOfFields entries = .ok parts.filters)
    (hTag : entries.lookup "type" = some (.str parts.tag))
    (hFilters : entries.lookup "filters" ≠ none)
    (hId : Gives entries "id" (asOption asText) none parts.id)
    (hCategory : Gives entries "category" (asOption asText) none parts.category)
    (hQuery : Gives entries "query" (asOption asText) none parts.query) :
    ofJson (.obj entries) = ofParts parts := by
  have hRead : (Json.obj entries).asRecord (fields (.ok parts.filters)) {} = .ok parts := by
    obtain ⟨value, hValue⟩ := Option.ne_none_iff_exists'.mp hFilters
    have hFiltersRead : Gives entries "filters" (fun _ => .ok parts.filters) none parts.filters :=
      gives_value hValue rfl
    refine asRecord_obj (by simp [fields, hTag, -List.lookup_eq_none_iff]) ?_
    -- the fields depend on the children, so that their order has to be computed by rewriting
    simp only [sortFields, fields, List.foldr_cons, List.foldr_nil, insertField, String.reduceLT,
      if_true, if_false]
    exact (readPresent_set hCategory rfl).trans <|
      (readPresent_set hFiltersRead rfl).trans <|
      (readPresent_set hId rfl).trans <|
      (readPresent_set hQuery rfl).trans <|
      readPresent_set (gives_text hTag) rfl
  rw [ofJson, hChildren, hRead]
  rfl

/-- An inner node is read back as one with the same children, of which equal ones are merged. -/
theorem ofJson_of_children {tag : String} {children : List Filter}
    (h : ∀ child ∈ children, ofJson child.toJson = .ok child) :
    ofJson (.obj [("type", .str tag), ("filters", .arr (listToJson children))]) =
      ofParts { tag, filters := some children } := by
  have hChildren : childrenOfFields
      [("type", .str tag), ("filters", .arr (listToJson children))] = .ok (some children) := by
    rw [childrenOfFields, if_neg (by decide), childrenOfFields, if_pos rfl, childrenOf,
      listOfJson_listToJson h]
    rfl
  exact ofJson_of_gives hChildren rfl (Option.some_ne_none _) (gives_absent rfl none)
    (gives_absent rfl none) (gives_absent rfl none)

/-- A leaf has null for its children. -/
theorem childrenOfFields_leaf {tag name text : String} (hName : name ≠ "filters") :
    childrenOfFields [("type", .str tag), (name, .str text), ("filters", .null)] = .ok none := by
  rw [childrenOfFields, if_neg (by decide), childrenOfFields, if_neg hName, childrenOfFields,
    if_pos rfl, childrenOf]

theorem labelled_passesOn : PassesOn Labelled :=
  passesOn_of_cases (fun _ _ => Labelled.and_distinct) (fun _ _ => Labelled.or_distinct)
    (fun _ => .stream) (fun _ => .category) (fun _ => .queryString)

theorem labelled_of_ofJson {value : Json} {filter : Filter} (h : ofJson value = .ok filter) :
    filter.Labelled :=
  (labelled_passesOn.of_read value).1 filter h

/-- A well-formed filter tree whose leaves have texts is read back as it was. -/
theorem ofJson_toJson {filter : Filter} (hWellFormed : filter.WellFormed)
    (hLabelled : filter.Labelled) : ofJson filter.toJson = .ok filter := by
  induction hWellFormed with
  | @and children hNonempty hNodup hEach ih =>
    cases hLabelled with
    | and hLabels =>
      rw [toJson, ofJson_of_children fun child hChild => ih child hChild (hLabels child hChild)]
      show and? children = _
      rw [and?_eq_ok_iff.mpr ⟨hNonempty, rfl⟩, distinct_of_nodup hNodup]
  | @or children hNonempty hNodup hEach ih =>
    cases hLabelled with
    | or hLabels =>
      rw [toJson, ofJson_of_children fun child hChild => ih child hChild (hLabels child hChild)]
      show or? children = _
      rw [or?_eq_ok_iff.mpr ⟨hNonempty, rfl⟩, distinct_of_nodup hNodup]
  | stream id =>
    cases hLabelled with
    | stream hText =>
      have hRead : ofJson (Filter.stream id).toJson =
          ofParts { tag := FilterKind.stream.tag, id := some id } := by
        rw [toJson]
        exact ofJson_of_gives (childrenOfFields_leaf (by decide)) rfl (Option.some_ne_none _)
          (gives_value rfl rfl) (gives_absent rfl none) (gives_absent rfl none)
      rw [hRead]
      show (requireText .stream "id" (some id)).map Filter.stream = _
      rw [requireText_of_ne_empty hText]
      rfl
  | category name =>
    cases hLabelled with
    | category hText =>
      have hRead : ofJson (Filter.category name).toJson =
          ofParts { tag := FilterKind.streamCategory.tag, category := some name } := by
        rw [toJson]
        exact ofJson_of_gives (childrenOfFields_leaf (by decide)) rfl (Option.some_ne_none _)
          (gives_absent rfl none) (gives_value rfl rfl) (gives_absent rfl none)
      rw [hRead]
      show (requireText .streamCategory "category" (some name)).map Filter.category = _
      rw [requireText_of_ne_empty hText]
      rfl
  | queryString query =>
    cases hLabelled with
    | queryString hText =>
      have hRead : ofJson (Filter.queryString query).toJson =
          ofParts { tag := FilterKind.queryString.tag, query := some query } := by
        rw [toJson]
        exact ofJson_of_gives (childrenOfFields_leaf (by decide)) rfl (Option.some_ne_none _)
          (gives_absent rfl none) (gives_absent rfl none) (gives_value rfl rfl)
      rw [hRead]
      show (requireText .queryString "query" (some query)).map Filter.queryString = _
      rw [requireText_of_ne_empty hText]
      rfl

end Filter

/-! ### Queries -/

theorem nameSearchTypes_of_named {fresh : Nat → String} {place : Nat}
    {searchTypes : List SearchType} (h : ∀ search ∈ searchTypes, search.id ≠ "") :
    nameSearchTypes fresh place searchTypes = searchTypes := by
  induction searchTypes generalizing place with
  | nil => rfl
  | cons first rest ih =>
    obtain ⟨hFirst, hRest⟩ := List.forall_mem_cons.mp h
    rw [nameSearchTypes, ih hRest]
    simp [hFirst]

namespace Query

/-- What is written of a query can be read: its time range was let through, the leaves of its filter
tree have texts, and the series of its pivots have been built. -/
structure Settled (query : Query) : Prop where
  timeRange : query.timeRange.Checked
  labelled : ∀ tree, query.filter = some tree → tree.Labelled
  searchTypes : ∀ search ∈ query.searchTypes, search.Settled

variable {random : String → Prop} {query : Query}

/-- A query with ids is built again from its own draft as it was, apart from the override. -/
theorem build_toDraft (hSound : query.Sound random) (hShown : Text.isBlankText query.id = false)
    (fresh : FreshIds) : query.toDraft.build fresh = .ok { query with override := none } := by
  have hIds : assignIds fresh.searchType query.searchTypes = .ok query.searchTypes := by
    have hNamed : nameSearchTypes fresh.searchType 0 query.searchTypes = query.searchTypes :=
      nameSearchTypes_of_named hSound.searchTypes.named
    refine assignIds_eq_ok_iff.mpr ⟨?_, hNamed.symm⟩
    rw [hNamed]
    exact hSound.searchTypes.distinct
  show (assignIds fresh.searchType query.searchTypes >>= _) = _
  rw [hIds]
  simp [toDraft, hShown]

/-- A query is read from its JSON form as its own draft, if its search filters are. -/
theorem asRecord_toJsonWith (hSound : query.Sound random) (hSettled : query.Settled)
    {written : List (String × Json)} {found : Option (List SearchFilter)}
    (hFound : found.getD [] = query.searchFilters)
    (hFilters : Gives written "filters" (asOption (asList SearchFilter.ofJson)) none found)
    (hOther : written.lookup "search_types" = none) :
    (query.toJsonWith written).asRecord fields {} = .ok query.toDraft := by
  have hTimeRange : asOption TimeRange.ofJson query.timeRange.toJson =
      .ok (some query.timeRange) := by
    refine asOption_of_read ?_ (TimeRange.ofJson_toJson hSettled.timeRange)
    cases query.timeRange <;> simp [TimeRange.toJson]
  have hId : asOption asText (.str query.id) = .ok (some query.id) := rfl
  have hText : asOption QueryText.ofJson query.text.toJson = .ok (some query.text) := rfl
  have hTree : asOption Filter.ofJson (.optional Filter.toJson query.filter) =
      .ok query.filter := by
    cases hFilter : query.filter with
    | none => rfl
    | some tree =>
      have hRead : Filter.ofJson tree.toJson = .ok tree :=
        Filter.ofJson_toJson (hSound.filter tree hFilter) (hSettled.labelled tree hFilter)
      have hObject : tree.toJson ≠ .null := by
        cases tree <;> simp [Filter.toJson]
      exact asOption_of_read hObject hRead
  have hSearchTypes : asList SearchType.ofJson (.arr (query.searchTypes.map SearchType.toJson)) =
      .ok query.searchTypes :=
    asList_map fun search hSearch => SearchType.ofJson_toJson
      (hSound.searchTypes.valid search hSearch) (hSettled.searchTypes search hSearch)
  have hFront {head : List (String × Json)} (hHead : head.lookup "search_types" = none) :
      (head ++ written).lookup "search_types" = none := by
    rw [List.lookup_append, hHead, hOther]
    rfl
  refine asRecord_obj (by simp [fields]) ?_
  refine (readPresent_set (gives_value rfl hTree) rfl).trans <|
    (readPresent_set ((hFilters.append_right rfl).append_left rfl) rfl).trans <|
    (readPresent_set (gives_value rfl hId) rfl).trans <|
    (readPresent_set (gives_value rfl hText) rfl).trans <|
    (readPresent_set ((gives_value rfl hSearchTypes).append_right (hFront rfl)) rfl).trans <|
    (readPresent_set (gives_value rfl hTimeRange) rfl).trans ?_
  rw [hFound]
  rfl

theorem asOption_searchFiltersJson (query : Query) :
    asOption (asList SearchFilter.ofJson) query.searchFiltersJson =
      .ok (some query.searchFilters) :=
  asOption_of_read (by simp [searchFiltersJson]) (asList_map fun filter _ => filter.ofJson_toJson)

section ReadBack

variable (hSound : query.Sound random) (hShown : Text.isBlankText query.id = false)
  (hSettled : query.Settled)
include hSound hShown hSettled

/-- Without search filters there is no field for them. -/
theorem ofJson_toJson (fresh : FreshIds) :
    ofJson fresh query.toJson = .ok { query with override := none } := by
  have hFilters : ∃ found : Option (List SearchFilter), found.getD [] = query.searchFilters ∧
      Gives (fieldWhen (!query.searchFilters.isEmpty) "filters" query.searchFiltersJson) "filters"
        (asOption (asList SearchFilter.ofJson)) none found := by
    cases hEmpty : query.searchFilters.isEmpty with
    | true => exact ⟨none, (List.isEmpty_iff.mp hEmpty).symm, gives_absent rfl none⟩
    | false =>
      exact ⟨some query.searchFilters, rfl, gives_value rfl query.asOption_searchFiltersJson⟩
  obtain ⟨found, hFound, hGives⟩ := hFilters
  have hRead : query.toJson.asRecord fields {} = .ok query.toDraft :=
    asRecord_toJsonWith hSound hSettled hFound hGives
      (by simp [-List.lookup_eq_none_iff])
  rw [ofJson, hRead]
  exact build_toDraft hSound hShown fresh

end ReadBack

end Query

/-! ### What has been read -/

/-- What a draft brings along can be read back. -/
structure QueryDraft.Settled (draft : QueryDraft) : Prop where
  timeRange : ∀ range, draft.timeRange = some range → range.Checked
  labelled : ∀ tree, draft.filter = some tree → tree.Labelled
  searchTypes : ∀ search ∈ draft.searchTypes, search.Settled

theorem QueryDraft.settled_empty : Settled {} :=
  ⟨fun _ hRange => by contradiction, fun _ hTree => by contradiction,
    fun _ hSearch => by contradiction⟩

theorem QueryDraft.fields_keep_settled : ∀ field ∈ Query.fields, field.Keeps Settled := by
  simp only [Query.fields, List.forall_mem_cons]
  refine ⟨Field.keeps_of_set ?_, Field.keeps_of_set ?_, Field.keeps_of_set ?_,
    Field.keeps_of_set ?_, Field.keeps_of_set ?_, Field.keeps_of_set ?_, by simp⟩
  · exact fun draft value id hDraft hRead => ⟨hDraft.timeRange, hDraft.labelled, hDraft.searchTypes⟩
  · intro draft value found hDraft hRead
    refine ⟨?_, hDraft.labelled, hDraft.searchTypes⟩
    rintro range rfl
    exact TimeRange.checked_of_ofJson (read_of_asOption hRead)
  · exact fun draft value text hDraft hRead =>
      ⟨hDraft.timeRange, hDraft.labelled, hDraft.searchTypes⟩
  · intro draft value found hDraft hRead
    refine ⟨hDraft.timeRange, ?_, hDraft.searchTypes⟩
    rintro tree rfl
    exact Filter.labelled_of_ofJson (read_of_asOption hRead)
  · exact fun draft value searchFilters hDraft hRead =>
      ⟨hDraft.timeRange, hDraft.labelled, hDraft.searchTypes⟩
  · intro draft value searchTypes hDraft hRead
    refine ⟨hDraft.timeRange, hDraft.labelled, fun search hSearch => ?_⟩
    obtain ⟨item, hItem⟩ := exists_of_asList hRead hSearch
    exact SearchType.settled_of_ofJson hItem

theorem Query.settled_of_build {fresh : FreshIds} {draft : QueryDraft} {query : Query}
    (hDraft : draft.Settled) (h : draft.build fresh = .ok query) : query.Settled := by
  obtain ⟨searchTypes, hAssigned, hQuery⟩ := bind_eq_ok.mp h
  rw [pure_eq_ok] at hQuery
  subst hQuery
  refine ⟨?_, hDraft.labelled, fun search hSearch => ?_⟩
  · show (draft.timeRange.getD .default).Checked
    cases hRange : draft.timeRange with
    | none => exact TimeRange.checked_default
    | some range => exact hDraft.timeRange range hRange
  -- a new id for a search type leaves its series alone
  · obtain ⟨-, rfl⟩ := assignIds_eq_ok_iff.mp hAssigned
    rcases mem_nameSearchTypes hSearch with ⟨hSame, -⟩ | ⟨unnamed, hUnnamed, place, rfl⟩
    · exact hDraft.searchTypes search hSame
    · exact hDraft.searchTypes unnamed hUnnamed

theorem Query.settled_of_ofJson {fresh : FreshIds} {value : Json} {query : Query}
    (h : ofJson fresh value = .ok query) : query.Settled := by
  obtain ⟨draft, hDraft, hBuild⟩ := bind_eq_ok.mp h
  exact settled_of_build
    (asRecord_keeps QueryDraft.fields_keep_settled QueryDraft.settled_empty hDraft) hBuild

end LogSearch
