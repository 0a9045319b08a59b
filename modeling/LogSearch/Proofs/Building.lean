import LogSearch.Query.Wire
import LogSearch.Uuid
import LogSearch.Proofs.SearchTypes
import LogSearch.Proofs.WellFormed

/-!
# Queries that have been built

What is true of every query that has been built is `Query.Sound`: it and its
search types have ids, these tell the search types apart, each search type makes
sense, and so does the filter tree.  A draft brings the last two with it, from
whatever it was put together (`QueryDraft.Sound`); the ids are the work of
`QueryDraft.build`.

New ids are only known to satisfy a predicate `random`.  Everything but the id of
the query itself needs no more than that no such id is empty; two of them may be
equal, which `assignIds` refuses like any other repetition.
-/

namespace LogSearch

variable {random : String → Prop}

/-! ### New ids -/

/-- The new ids are random ones. -/
def FreshIds.From (random : String → Prop) (fresh : FreshIds) : Prop :=
  random fresh.query ∧ ∀ place, random (fresh.searchType place)

namespace Uuid

/-- The id is a UUID, as new ids are. -/
def Made (id : String) : Prop := ∃ n, id = text n

theorem isBlankText_of_made {id : String} (h : Made id) : Text.isBlankText id = false := by
  obtain ⟨n, rfl⟩ := h
  have hDash : '-' ∈ (text n).toList := by
    simp [text]
  have hShown : Text.isBlank '-' = false := by decide
  rw [Text.isBlankText, List.all_eq_false]
  exact ⟨'-', hDash, by simp [hShown]⟩

theorem ne_empty_of_made {id : String} (h : Made id) : id ≠ "" := by
  have hShown := isBlankText_of_made h
  rintro rfl
  contradiction

theorem from_freshIds (start place : Nat) : (freshIds start place).From Made :=
  ⟨⟨_, rfl⟩, fun _ => ⟨_, rfl⟩⟩

end Uuid

/-! ### Ids of search types -/

/-- Search types with ids that tell them apart, all of which make sense. -/
structure SearchTypesSound (searchTypes : List SearchType) : Prop where
  named : ∀ search ∈ searchTypes, search.id ≠ ""
  distinct : (searchTypes.map SearchType.id).Nodup
  valid : ∀ search ∈ searchTypes, search.Valid

section Ids

variable {fresh : Nat → String} {place : Nat} {searchTypes named : List SearchType}

/-- A search type keeps the id it has, or gets a new one. -/
theorem mem_nameSearchTypes {search : SearchType}
    (h : search ∈ nameSearchTypes fresh place searchTypes) :
    (search ∈ searchTypes ∧ search.id ≠ "") ∨
      ∃ unnamed ∈ searchTypes, ∃ place, search = unnamed.withId (fresh place) := by
  -- the place counts on along the list, and which place a search type has does not matter
  induction searchTypes generalizing place with
  | nil => simp [nameSearchTypes] at h
  | cons first rest ih =>
    rw [nameSearchTypes] at h
    rcases List.mem_cons.mp h with hFirst | hRest
    · split at hFirst
      · exact .inr ⟨first, List.mem_cons_self, place, hFirst⟩
      · next hNamed =>
        rw [hFirst]
        exact .inl ⟨List.mem_cons_self, by simpa using hNamed⟩
    · rcases ih hRest with ⟨hSame, hNamed⟩ | ⟨unnamed, hUnnamed, hNew⟩
      · exact .inl ⟨List.mem_cons_of_mem _ hSame, hNamed⟩
      · exact .inr ⟨unnamed, List.mem_cons_of_mem _ hUnnamed, hNew⟩

theorem assignIds_eq_ok_iff :
    assignIds fresh searchTypes = .ok named ↔
      ((nameSearchTypes fresh 0 searchTypes).map SearchType.id).Nodup ∧
        named = nameSearchTypes fresh 0 searchTypes := by
  simp only [assignIds, ← firstRepeated?_nil_eq_none_iff]
  cases firstRepeated? [] ((nameSearchTypes fresh 0 searchTypes).map SearchType.id) with
  | none => simp [eq_comm]
  | some id => simp

theorem sound_of_assignIds (hFresh : ∀ place, fresh place ≠ "")
    (hValid : ∀ search ∈ searchTypes, search.Valid)
    (h : assignIds fresh searchTypes = .ok named) : SearchTypesSound named := by
  obtain ⟨hDistinct, rfl⟩ := assignIds_eq_ok_iff.mp h
  refine ⟨fun search hSearch => ?_, hDistinct, fun search hSearch => ?_⟩
  · rcases mem_nameSearchTypes hSearch with ⟨-, hNamed⟩ | ⟨unnamed, -, place, rfl⟩
    · exact hNamed
    · exact hFresh place
  · rcases mem_nameSearchTypes hSearch with ⟨hSame, -⟩ | ⟨unnamed, hUnnamed, place, rfl⟩
    · exact hValid search hSame
    · exact hValid unnamed hUnnamed

end Ids

/-! ### Drafts -/

namespace QueryDraft

/-- What a draft brings along for the query. -/
structure Sound (draft : QueryDraft) : Prop where
  filter : ∀ filter, draft.filter = some filter → filter.WellFormed
  searchTypes : ∀ search ∈ draft.searchTypes, search.Valid

theorem sound_empty : Sound {} :=
  ⟨fun _ hFilter => by contradiction, fun _ hSearch => by contradiction⟩

/-- One thing that a draft is told. -/
inductive Setting
  | id (id : String)
  | timeRange (timeRange : TimeRange)
  | text (text : QueryText)
  | filter (filter : Filter)
  | searchFilters (searchFilters : List SearchFilter)
  /-- Search types that come behind those the draft has. -/
  | searchTypes (added : List SearchType)

/-- The draft with one more thing told. -/
def set (draft : QueryDraft) : Setting → QueryDraft
  | .id id => { draft with id := some id }
  | .timeRange timeRange => { draft with timeRange := some timeRange }
  | .text text => { draft with text := some text }
  | .filter filter => { draft with filter := some filter }
  | .searchFilters searchFilters => { draft with searchFilters }
  | .searchTypes added => { draft with searchTypes := draft.searchTypes ++ added }

/-- Filters and search types in a setting were made from outside. -/
def Setting.Constructed : Setting → Prop
  | .filter tree => tree.Constructed
  | .searchTypes added => ∀ search ∈ added, search.Constructed
  | .id _ | .timeRange _ | .text _ | .searchFilters _ => True

theorem sound_set {draft : QueryDraft} {setting : Setting} (hDraft : draft.Sound)
    (hSetting : setting.Constructed) : (draft.set setting).Sound := by
  cases setting with
  | id id => exact ⟨hDraft.filter, hDraft.searchTypes⟩
  | timeRange timeRange => exact ⟨hDraft.filter, hDraft.searchTypes⟩
  | text text => exact ⟨hDraft.filter, hDraft.searchTypes⟩
  | filter filter =>
    refine ⟨fun other hOther => ?_, hDraft.searchTypes⟩
    rw [← Option.some.inj hOther]
    exact Filter.constructed_iff_wellFormed.mp hSetting
  | searchFilters searchFilters => exact ⟨hDraft.filter, hDraft.searchTypes⟩
  | searchTypes added =>
    refine ⟨hDraft.filter, fun search hSearch => ?_⟩
    rcases List.mem_append.mp hSearch with hOld | hNew
    · exact hDraft.searchTypes search hOld
    · exact SearchType.constructed_iff_valid.mp (hSetting search hNew)

theorem sound_foldl_set {draft : QueryDraft} {settings : List Setting} (hDraft : draft.Sound)
    (hSettings : ∀ setting ∈ settings, setting.Constructed) : (settings.foldl set draft).Sound := by
  induction settings generalizing draft with
  | nil => exact hDraft
  | cons first rest ih =>
    obtain ⟨hFirst, hRest⟩ := List.forall_mem_cons.mp hSettings
    exact ih (sound_set hDraft hFirst) hRest

theorem fields_keep_sound : ∀ field ∈ Query.fields, field.Keeps Sound := by
  simp only [Query.fields, List.forall_mem_cons]
  refine ⟨Json.Field.keeps_of_set ?_, Json.Field.keeps_of_set ?_, Json.Field.keeps_of_set ?_,
    Json.Field.keeps_of_set ?_, Json.Field.keeps_of_set ?_, Json.Field.keeps_of_set ?_, by simp⟩
  · exact fun draft value id hDraft hRead => ⟨hDraft.filter, hDraft.searchTypes⟩
  · exact fun draft value timeRange hDraft hRead => ⟨hDraft.filter, hDraft.searchTypes⟩
  · exact fun draft value text hDraft hRead => ⟨hDraft.filter, hDraft.searchTypes⟩
  · rintro draft value found hDraft hRead
    refine ⟨?_, hDraft.searchTypes⟩
    rintro filter rfl
    exact Filter.wellFormed_of_ofJson (Json.read_of_asOption hRead)
  · exact fun draft value searchFilters hDraft hRead => ⟨hDraft.filter, hDraft.searchTypes⟩
  · intro draft value searchTypes hDraft hRead
    refine ⟨hDraft.filter, fun search hSearch => ?_⟩
    obtain ⟨item, hItem⟩ := Json.exists_of_asList hRead hSearch
    exact SearchType.valid_of_ofJson hItem

end QueryDraft

/-! ### Queries -/

namespace Query

/-- What is true of a query from when it is built. -/
structure Sound (random : String → Prop) (query : Query) : Prop where
  /-- A blank id can only be a random one. -/
  id : Text.isBlankText query.id = false ∨ random query.id
  searchTypes : SearchTypesSound query.searchTypes
  filter : ∀ filter, query.filter = some filter → filter.WellFormed

theorem Sound.toDraft {query : Query} (h : query.Sound random) : query.toDraft.Sound :=
  ⟨h.filter, h.searchTypes.valid⟩

section Built

variable {fresh : FreshIds} {query : Query} (hRandom : ∀ id, random id → id ≠ "")
  (hFresh : fresh.From random)
include hRandom hFresh

theorem sound_of_build {draft : QueryDraft} (hDraft : draft.Sound)
    (h : draft.build fresh = .ok query) : query.Sound random := by
  obtain ⟨searchTypes, hAssigned, hQuery⟩ := bind_eq_ok.mp h
  rw [pure_eq_ok] at hQuery
  subst hQuery
  refine ⟨?_, ?_, hDraft.filter⟩
  · cases draft.id with
    | none => exact .inr hFresh.1
    | some id =>
      by_cases hBlank : Text.isBlankText id = true
      · simp only [hBlank]
        exact .inr hFresh.1
      · simp only [hBlank]
        exact .inl (Bool.eq_false_iff.mpr hBlank)
  · exact sound_of_assignIds (fun place => hRandom _ (hFresh.2 place)) hDraft.searchTypes hAssigned

theorem sound_of_ofJson {value : Json} (h : ofJson fresh value = .ok query) :
    query.Sound random := by
  obtain ⟨draft, hDraft, hBuild⟩ := bind_eq_ok.mp h
  have hSound : draft.Sound :=
    Json.asRecord_keeps QueryDraft.fields_keep_sound QueryDraft.sound_empty hDraft
  exact sound_of_build hRandom hFresh hSound hBuild

end Built

end Query

end LogSearch
