import LogSearch.Proofs.Building
import LogSearch.Proofs.Overrides
import LogSearch.Proofs.Restriction

/-!
# What stays true of a query

A query is read or built, and then changed by operations that check nothing: a
state of a run writes into the search types, restricting the query to streams and
expanding its categories write into the filter tree, and search types may be
replaced as a whole.  `Query.Sound` survives each of them (`sound_edit`) and hence
any history of them (`sound_after`), whatever offsets and limits a state asks for
and whatever a directory answers.  An operation that fails leaves the query as it
was.
-/

namespace LogSearch

namespace Query

/-! ### Histories -/

/-- How a query comes into being: it is read, or built from a draft.  New ids are random, and
filters and search types in a draft were made from outside. -/
inductive Origin (random : String → Prop) : Query → Prop
  | read {fresh : FreshIds} {value : Json} {query : Query} (hFresh : fresh.From random)
      (h : ofJson fresh value = .ok query) : Origin random query
  | built {fresh : FreshIds} {settings : List QueryDraft.Setting} {query : Query}
      (hFresh : fresh.From random) (hSettings : ∀ setting ∈ settings, setting.Constructed)
      (h : (settings.foldl QueryDraft.set {}).build fresh = .ok query) : Origin random query

/-- A change of a query. -/
inductive Edit
  | timeRange (timeRange : TimeRange)
  | text (text : QueryText)
  | filter (filter : Option Filter)
  | searchFilters (searchFilters : List SearchFilter)
  | searchTypes (fresh : Nat → String) (searchTypes : List SearchType)
  | restrict (streams : NameSet)
  | expand (directory : Directory)
  | apply (state : RunState)
  /-- The query is taken back into a draft, which is told some more, and built again. -/
  | rebuild (fresh : FreshIds) (settings : List QueryDraft.Setting)

/-- What a change makes of a query, if it succeeds. -/
def attempt (query : Query) : Edit → Attempt Query
  | .timeRange timeRange => .ok (query.withTimeRange timeRange)
  | .text text => .ok (query.withText text)
  | .filter filter => .ok (query.withFilter filter)
  | .searchFilters searchFilters => .ok (query.withSearchFilters searchFilters)
  | .searchTypes fresh searchTypes => query.withSearchTypes fresh searchTypes
  | .restrict streams => .ok (query.restrictTo streams)
  | .expand directory => (query.expandCategories directory).outcome
  | .apply state => .ok (query.applyState state)
  | .rebuild fresh settings => (settings.foldl QueryDraft.set query.toDraft).build fresh

/-- The query after a change; one that fails leaves it as it was. -/
def edit (query : Query) (edit : Edit) : Query :=
  match query.attempt edit with
  | .ok changed => changed
  | .error _ => query

/-- The query after a history of changes. -/
def after (query : Query) (edits : List Edit) : Query := edits.foldl edit query

/-- New ids that the change needs are random, and filters and search types in its arguments were
made from outside. -/
def Edit.Admissible (random : String → Prop) : Edit → Prop
  | .filter tree? => ∀ tree, tree? = some tree → tree.Constructed
  | .searchTypes fresh replaced =>
    (∀ place, random (fresh place)) ∧ ∀ search ∈ replaced, search.Constructed
  | .rebuild fresh settings => fresh.From random ∧ ∀ setting ∈ settings, setting.Constructed
  | .timeRange _ | .text _ | .searchFilters _ | .restrict _ | .expand _ | .apply _ => True

/-! ### Single changes -/

section Changes

variable {random : String → Prop} {query : Query} (h : query.Sound random)
include h

theorem Sound.withFilter {filter : Option Filter}
    (hFilter : ∀ tree, filter = some tree → tree.WellFormed) :
    (query.withFilter filter).Sound random :=
  ⟨h.id, h.searchTypes, hFilter⟩

theorem Sound.restrictTo (streams : NameSet) : (query.restrictTo streams).Sound random := by
  rw [restrictTo_eq_withFilter]
  exact h.withFilter (wellFormed_restrictTo h.filter)

theorem Sound.expandCategories {directory : Directory} {expanded : Query}
    (hExpand : (query.expandCategories directory).outcome = .ok expanded) :
    expanded.Sound random := by
  obtain ⟨tree?, rfl, hTrees⟩ := expandCategories_keeps hExpand
    fun _ _ _ hLeft => Filter.wellFormed_of_expand hLeft
  exact h.withFilter hTrees

/-- A state keeps the ids, and the change of paging that it holds keeps each search type valid. -/
theorem Sound.applyState (state : RunState) : (query.applyState state).Sound random := by
  rw [applyState_eq]
  refine ⟨h.id, ⟨fun repaged hRepaged => ?_, ?_, fun repaged hRepaged => ?_⟩, h.filter⟩
  · obtain ⟨search, hSearch, rfl⟩ := List.mem_map.mp hRepaged
    rw [state.id_repaged]
    exact h.searchTypes.named search hSearch
  -- the ids are only checked when a query is built; here they must be seen not to move
  · show ((query.searchTypes.map state.repaged).map SearchType.id).Nodup
    rw [state.map_id_repaged]
    exact h.searchTypes.distinct
  · obtain ⟨search, hSearch, rfl⟩ := List.mem_map.mp hRepaged
    have hValid := h.searchTypes.valid search hSearch
    rcases state.repaged_cases search with ⟨-, hSame⟩ | ⟨paging, -, hChanged⟩
    · rwa [hSame]
    · rw [hChanged]
      exact SearchType.valid_repage hValid

variable (hRandom : ∀ id, random id → id ≠ "")
include hRandom

theorem Sound.withSearchTypes {fresh : Nat → String} {searchTypes : List SearchType}
    {changed : Query} (hFresh : ∀ place, random (fresh place))
    (hValid : ∀ search ∈ searchTypes, search.Valid)
    (hChanged : query.withSearchTypes fresh searchTypes = .ok changed) :
    changed.Sound random := by
  obtain ⟨named, hAssigned, hResult⟩ := bind_eq_ok.mp hChanged
  rw [pure_eq_ok] at hResult
  rw [← hResult]
  exact ⟨h.id, sound_of_assignIds (fun place => hRandom _ (hFresh place)) hValid hAssigned,
    h.filter⟩

end Changes

/-! ### Any history -/

/-- What each change of a history keeps is kept by the history. -/
theorem after_keeps {P : Query → Prop} {query : Query} {edits : List Edit}
    (hEdits : ∀ edit ∈ edits, ∀ query, P query → P (query.edit edit)) (hQuery : P query) :
    P (query.after edits) := by
  -- over all queries at once: the rest of the history starts from the changed one
  induction edits generalizing query with
  | nil => exact hQuery
  | cons first rest ih =>
    obtain ⟨hFirst, hRest⟩ := List.forall_mem_cons.mp hEdits
    exact ih hRest (hFirst query hQuery)

section Runs

variable {random : String → Prop} (hRandom : ∀ id, random id → id ≠ "")
include hRandom

theorem sound_of_origin {query : Query} (h : query.Origin random) : query.Sound random := by
  cases h with
  | read hFresh h => exact sound_of_ofJson hRandom hFresh h
  | built hFresh hSettings h =>
    exact sound_of_build hRandom hFresh
      (QueryDraft.sound_foldl_set QueryDraft.sound_empty hSettings) h

theorem sound_of_attempt {query changed : Query} {edit : Edit} (hQuery : query.Sound random)
    (hEdit : edit.Admissible random) (h : query.attempt edit = .ok changed) :
    changed.Sound random := by
  cases edit with
  | timeRange timeRange =>
    rw [← Except.ok.inj h]
    exact ⟨hQuery.id, hQuery.searchTypes, hQuery.filter⟩
  | text text =>
    rw [← Except.ok.inj h]
    exact ⟨hQuery.id, hQuery.searchTypes, hQuery.filter⟩
  | filter filter =>
    rw [← Except.ok.inj h]
    exact hQuery.withFilter fun tree hTree =>
      Filter.constructed_iff_wellFormed.mp (hEdit tree hTree)
  | searchFilters searchFilters =>
    rw [← Except.ok.inj h]
    exact ⟨hQuery.id, hQuery.searchTypes, hQuery.filter⟩
  | searchTypes fresh searchTypes =>
    obtain ⟨hFresh, hConstructed⟩ := hEdit
    have hValid : ∀ search ∈ searchTypes, search.Valid := fun search hSearch =>
      SearchType.constructed_iff_valid.mp (hConstructed search hSearch)
    exact hQuery.withSearchTypes hRandom hFresh hValid h
  | restrict streams =>
    rw [← Except.ok.inj h]
    exact hQuery.restrictTo streams
  | expand directory => exact hQuery.expandCategories h
  | apply state =>
    rw [← Except.ok.inj h]
    exact hQuery.applyState state
  | rebuild fresh settings =>
    obtain ⟨hFresh, hSettings⟩ := hEdit
    exact sound_of_build hRandom hFresh
      (QueryDraft.sound_foldl_set hQuery.toDraft hSettings) h

theorem sound_edit {query : Query} {edit : Edit} (hQuery : query.Sound random)
    (hEdit : edit.Admissible random) : (query.edit edit).Sound random := by
  unfold Query.edit
  split
  · next changed hChanged => exact sound_of_attempt hRandom hQuery hEdit hChanged
  · exact hQuery

theorem sound_after {query : Query} {edits : List Edit} (hQuery : query.Sound random)
    (hEdits : ∀ edit ∈ edits, edit.Admissible random) : (query.after edits).Sound random :=
  after_keeps (fun edit hEdit _ hSound => sound_edit hRandom hSound (hEdits edit hEdit)) hQuery

end Runs

/-- A query that was read or built is sound at every moment of its history, if no new id is empty.
Its id is not blank, as new ids are UUIDs.  Where a state turns an offset into a page of events, the
size it divides by is not zero. -/
theorem sound_of_history {random : String → Prop} {start : Query} {edits : List Edit}
    (hRandom : ∀ id, random id → id ≠ "") (hStart : start.Origin random)
    (hEdits : ∀ edit ∈ edits, edit.Admissible random) :
    (start.after edits).Sound random ∧
      ((∀ id, random id → Uuid.Made id) → Text.isBlankText (start.after edits).id = false) ∧
      ∀ search ∈ (start.after edits).searchTypes, ∀ list, search.detail = .events list →
        ∀ paging, 1 ≤ (SearchType.repageEvents paging list).pageSize := by
  have hSound := sound_after hRandom (sound_of_origin hRandom hStart) hEdits
  refine ⟨hSound, fun hUuids => ?_, fun search hSearch list hList paging => ?_⟩
  · rcases hSound.id with hShown | hNew
    · exact hShown
    · exact Uuid.isBlankText_of_made (hUuids _ hNew)
  · have hValid : search.detail.Valid := hSound.searchTypes.valid search hSearch
    rw [hList] at hValid
    exact SearchType.one_le_pageSize_repageEvents hValid

/-- A query is read; its events are asked for at an offset beyond all pages and with a limit of
zero; its category is expanded; two search types of one id are refused; and it is built again. -/
theorem sound_of_history_of_read :
    let value := Json.obj [("search_types", .arr [.obj [("type", .str "messages")],
      .obj [("type", .str "events"), ("id", .str "alerts")]])]
    let paging : PagingOverride := { offset := some 4294967295, limit := some 0 }
    let catalog : Catalog := { categories := .ofList [("web", ["front", "back"])] }
    let list : SearchType := { id := "list", detail := .messages {} }
    let edits : List Edit := [.apply { searchTypes := .ofList [("alerts", paging)] },
      .filter (some (.category "web")), .expand catalog.directory, .restrict (.singleton "front"),
      .searchTypes (Uuid.freshIds 0 1).searchType [list, list],
      .rebuild (Uuid.freshIds 0 2) [.id " ", .searchTypes [list]]]
    ∃ start, ofJson (Uuid.freshIds 0 0) value = .ok start ∧
      (start.after edits).filter =
        some (.and [.stream "front", .or [.stream "back", .stream "front"]]) ∧
      ((start.after edits).searchType? "alerts").bind SearchType.page? = some ⟨429496730, 10⟩ ∧
      (start.after edits).Sound Uuid.Made ∧ Text.isBlankText (start.after edits).id = false := by
  intro value paging catalog list edits
  obtain ⟨start, hStart, hFilter, hPage⟩ : ∃ start, ofJson (Uuid.freshIds 0 0) value = .ok start ∧
      (start.after edits).filter =
        some (.and [.stream "front", .or [.stream "back", .stream "front"]]) ∧
      ((start.after edits).searchType? "alerts").bind SearchType.page? = some ⟨429496730, 10⟩ :=
    ⟨_, by with_unfolding_all rfl, by with_unfolding_all rfl, by decide +kernel⟩
  have hList : list.Constructed := .checked (rfl : list.check = .ok list)
  have hRefused : (Edit.searchTypes (Uuid.freshIds 0 1).searchType [list, list]).Admissible
      Uuid.Made :=
    ⟨(Uuid.from_freshIds 0 1).2, by simp [hList]⟩
  have hRebuild : (Edit.rebuild (Uuid.freshIds 0 2) [.id " ", .searchTypes [list]]).Admissible
      Uuid.Made :=
    ⟨Uuid.from_freshIds 0 2, by simp [QueryDraft.Setting.Constructed, hList]⟩
  have hCategory : (Edit.filter (some (.category "web"))).Admissible Uuid.Made := by
    rintro tree ⟨⟩
    exact .category "web"
  have hEdits : ∀ edit ∈ edits, edit.Admissible Uuid.Made := by
    simp only [edits, List.forall_mem_cons]
    exact ⟨trivial, hCategory, trivial, trivial, hRefused, hRebuild, by simp⟩
  obtain ⟨hSound, hShown, -⟩ := sound_of_history (fun _ => Uuid.ne_empty_of_made)
    (.read (Uuid.from_freshIds 0 0) hStart) hEdits
  exact ⟨start, hStart, hFilter, hPage, hSound, hShown fun _ hMade => hMade⟩

end Query

end LogSearch
