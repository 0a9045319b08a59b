import Mathlib.Data.List.Nodup
import Mathlib.Data.List.Perm.Subperm
import LogSearch.Command
import LogSearch.Proofs.Building
import LogSearch.Proofs.Execution

/-!
# What a printed plan shows

The command that prints a plan lists the bodies of its requests in a table, under
the id of the query and the id of the search type with a slash between them.  Ids
are any texts, so that a slash within them is not told apart from the one between
them: where the id of one query is continued behind a slash by that of another,
two requests may be joined to one name (`joined_eq_joined_iff`), and of these only
the last is shown (`get?_bodiesById`).

Which pairs of ids a plan has requests for is known from its queries
(`idents_of_plan`), and so is whether each request has an entry of its own
(`printed_plan_shows_all_iff`).
-/

namespace LogSearch

/-! ### Joined names -/

theorem join_cases_of_append {first second third fourth : String} {more : List Char}
    (hThird : third.toList = first.toList ++ more)
    (hSecond : '/' :: second.toList = more ++ '/' :: fourth.toList) :
    (first = third ∧ second = fourth) ∨
      ∃ part, third = first ++ "/" ++ part ∧ second = part ++ "/" ++ fourth := by
  cases more with
  | nil =>
    rw [List.append_nil] at hThird
    exact .inl ⟨(String.toList_injective hThird).symm,
      String.toList_injective (List.cons.inj hSecond).2⟩
  | cons slash part =>
    obtain ⟨rfl, hRest⟩ := List.cons.inj hSecond
    refine .inr ⟨String.ofList part, String.toList_injective ?_, String.toList_injective ?_⟩
    · simpa using hThird
    · simpa using hRest

/-- Two pairs of texts are joined to the same text if they are equal, or if a text of one pair
holds the slash of the other. -/
theorem joined_eq_joined_iff {first second third fourth : String} :
    first ++ "/" ++ second = third ++ "/" ++ fourth ↔
      (first = third ∧ second = fourth) ∨
        (∃ part, third = first ++ "/" ++ part ∧ second = part ++ "/" ++ fourth) ∨
        ∃ part, first = third ++ "/" ++ part ∧ fourth = part ++ "/" ++ second := by
  constructor
  · intro h
    have hList : first.toList ++ '/' :: second.toList = third.toList ++ '/' :: fourth.toList := by
      simpa using congrArg String.toList h
    rcases List.append_eq_append_iff.mp hList with ⟨more, hThird, hSecond⟩ | ⟨more, hFirst, hFourth⟩
    · exact (join_cases_of_append hThird hSecond).imp_right .inl
    · rcases join_cases_of_append hFirst hFourth with ⟨rfl, rfl⟩ | hPart
      · exact .inl ⟨rfl, rfl⟩
      · exact .inr (.inr hPart)
  · rintro (⟨rfl, rfl⟩ | ⟨part, rfl, rfl⟩ | ⟨part, rfl, rfl⟩) <;> simp only [String.append_assoc]

/-- The id of a query and that of a search type as one name. -/
def joinedIds (ident : String × String) : String :=
  ident.1 ++ "/" ++ ident.2

/-! ### Tables of printed bodies -/

namespace PlannedRequest

/-- The id of the query and the id of the search type that a request is for. -/
def ident (request : PlannedRequest) : String × String :=
  (request.queryId, request.searchTypeId)

theorem map_printedName (requests : List PlannedRequest) :
    requests.map printedName = (requests.map ident).map joinedIds := by
  rw [List.map_map]
  rfl

end PlannedRequest

/-- A table shows all requests: it has one entry for each of them, which holds its body, and no
other entries.  How the entries are named does not matter. -/
def ShowsAll (requests : List PlannedRequest) (printed : Keyed Json) : Prop :=
  ∃ names : List String, names.Nodup ∧
    List.Forall₂ (fun request name => printed.get? name = some request.body.toJson)
      requests names ∧
    ∀ name, printed.contains name = true ↔ name ∈ names

theorem lookup_map_printed (requests : List PlannedRequest) (name : String) :
    (requests.map fun request => (request.printedName, request.body.toJson)).lookup name =
      (requests.find? fun request => request.printedName == name).map fun request =>
        request.body.toJson := by
  induction requests with
  | nil => rfl
  | cons first rest ih =>
    rw [List.map_cons, List.find?_cons, List.lookup_cons, Bool.beq_comm]
    cases hName : first.printedName == name with
    | true => rfl
    | false => exact ih

namespace Command

/-- Of the requests that are printed under a name, the last one is shown. -/
theorem get?_bodiesById (planned : List PlannedQuery) (name : String) :
    (bodiesById planned).get? name =
      ((planned.flatMap PlannedQuery.requests).reverse.find? fun request =>
        request.printedName == name).map fun request => request.body.toJson := by
  rw [bodiesById, Keyed.get?_ofList, ← List.map_reverse]
  exact lookup_map_printed _ name

theorem contains_bodiesById_iff {planned : List PlannedQuery} {name : String} :
    (bodiesById planned).contains name = true ↔
      name ∈ (planned.flatMap PlannedQuery.requests).map PlannedRequest.printedName := by
  simp [Keyed.contains, get?_bodiesById]

/-- Entries are told apart by their names only, so that no two requests may share one. -/
theorem showsAll_bodiesById_iff {planned : List PlannedQuery} :
    ShowsAll (planned.flatMap PlannedQuery.requests) (bodiesById planned) ↔
      ((planned.flatMap PlannedQuery.requests).map PlannedRequest.printedName).Nodup := by
  constructor
  · rintro ⟨names, hNodup, hEach, hNames⟩
    have hSubset : names ⊆
        (planned.flatMap PlannedQuery.requests).map PlannedRequest.printedName := fun name hName =>
      contains_bodiesById_iff.mp ((hNames name).mpr hName)
    -- a list within another of the same length, and without repetition, is a reordering of it
    have hPerm := (hNodup.subperm hSubset).perm_of_length_le (by
      rw [List.length_map, hEach.length_eq])
    exact hPerm.nodup_iff.mp hNodup
  · intro hNodup
    refine ⟨_, hNodup, ?_, fun name => contains_bodiesById_iff⟩
    rw [List.forall₂_map_right_iff, List.forall₂_same]
    intro request hRequest
    have hReversed :
        ((planned.flatMap PlannedQuery.requests).reverse.map PlannedRequest.printedName).Nodup := by
      rwa [List.map_reverse, List.nodup_reverse]
    rw [get?_bodiesById, find?_key_of_mem hReversed (List.mem_reverse.mpr hRequest)]
    rfl

end Command

/-! ### The ids a plan pairs -/

section Plan

variable {planner : Planner} {directory : Directory} {now : Instant} {state : RunState}
  {queries : List Query} {planned : List PlannedQuery}

/-- The id of a query with the id of each of its search types that is to be run. -/
def Query.identsToRun (state : RunState) (query : Query) : List (String × String) :=
  (query.idsToRun state).map fun id => (query.id, id)

theorem mem_flatMap_identsToRun {kept : List Query} {ident : String × String} :
    ident ∈ kept.flatMap (Query.identsToRun state) ↔
      ∃ query ∈ kept, ident.1 = query.id ∧ ident.2 ∈ query.idsToRun state := by
  obtain ⟨queryId, id⟩ := ident
  simp [Query.identsToRun, List.mem_flatMap, eq_comm, and_comm]

/-- A plan has a request for every search type of a query where both are to be run, in their
order. -/
theorem idents_of_plan (h : (planner.plan directory now state queries).outcome = .ok planned) :
    (planned.flatMap PlannedQuery.requests).map PlannedRequest.ident =
      (queries.filter fun query => state.global.keepsQuery query.id).flatMap
        (Query.identsToRun state) := by
  have hEach := Planner.planAll_eq_ok_iff.mp h
  clear h
  generalize (queries.filter fun query => state.global.keepsQuery query.id) = kept at hEach ⊢
  induction hEach with
  | nil => rfl
  | cons hFirst hRest ih =>
    obtain ⟨-, -, hIds, hOwner⟩ := Planner.planQuery_requests hFirst
    rw [List.flatMap_cons, List.flatMap_cons, List.map_append, ih, Query.identsToRun, ← hIds,
      List.map_map]
    congr 1
    exact List.map_congr_left fun request hRequest =>
      congrArg (·, request.searchTypeId) (hOwner request hRequest)

theorem nodup_idents {kept : List Query} (hIds : (kept.map Query.id).Nodup)
    (hSearchTypes : ∀ query ∈ kept, (query.searchTypes.map SearchType.id).Nodup) :
    (kept.flatMap (Query.identsToRun state)).Nodup := by
  rw [List.nodup_flatMap]
  constructor
  · intro query hQuery
    exact ((hSearchTypes query hQuery).filter _).map (Prod.mk_right_injective query.id)
  · refine (List.pairwise_map.mp hIds).imp fun hNe pair hFirst hSecond => hNe ?_
    obtain ⟨_, -, rfl⟩ := List.mem_map.mp hFirst
    obtain ⟨_, -, hSame⟩ := List.mem_map.mp hSecond
    exact (congrArg Prod.fst hSame).symm

/-- Requests of a plan are printed under one name where the id of one query is continued by that
of another behind a slash, and the id of a search type makes up for what is missing. -/
theorem nodup_printedNames_iff {kept : List Query} (hIds : (kept.map Query.id).Nodup)
    (hSearchTypes : ∀ query ∈ kept, (query.searchTypes.map SearchType.id).Nodup) :
    ((kept.flatMap (Query.identsToRun state)).map joinedIds).Nodup ↔
      ∀ first ∈ kept, ∀ second ∈ kept, ∀ part id, second.id = first.id ++ "/" ++ part →
        id ∈ second.idsToRun state → part ++ "/" ++ id ∉ first.idsToRun state := by
  rw [List.nodup_map_iff_inj_on (nodup_idents hIds hSearchTypes)]
  constructor
  · intro hInj first hFirst second hSecond part id hPart hId hOther
    have hSame := hInj
      (first.id, part ++ "/" ++ id) (mem_flatMap_identsToRun.mpr ⟨first, hFirst, rfl, hOther⟩)
      (second.id, id) (mem_flatMap_identsToRun.mpr ⟨second, hSecond, rfl, hId⟩)
      (joined_eq_joined_iff.mpr (.inr (.inl ⟨part, hPart, rfl⟩)))
    have hEqual : first.id = first.id ++ "/" ++ part := (congrArg Prod.fst hSame).trans hPart
    simpa using congrArg String.toList hEqual
  · intro hApart left hLeft right hRight hSame
    obtain ⟨first, hFirst, hFirstId, hFirstRuns⟩ := mem_flatMap_identsToRun.mp hLeft
    obtain ⟨second, hSecond, hSecondId, hSecondRuns⟩ := mem_flatMap_identsToRun.mp hRight
    rcases joined_eq_joined_iff.mp hSame with ⟨hIdEq, hSearchEq⟩ | ⟨part, hLonger, hMore⟩ |
      ⟨part, hLonger, hMore⟩
    · exact Prod.ext hIdEq hSearchEq
    · rw [hFirstId, hSecondId] at hLonger
      rw [hMore] at hFirstRuns
      exact absurd hFirstRuns (hApart first hFirst second hSecond part _ hLonger hSecondRuns)
    · rw [hFirstId, hSecondId] at hLonger
      rw [hMore] at hSecondRuns
      exact absurd hSecondRuns (hApart second hSecond first hFirst part _ hLonger hFirstRuns)

end Plan

/-! ### Queries of a file -/

section Files

variable {queries : List Query} {query : Query}

theorem Query.exists_of_listOfJson {fresh : Nat → FreshIds} {place : Nat} {values : List Json}
    (h : listOfJson fresh place values = .ok queries) (hQuery : query ∈ queries) :
    ∃ ids value, ofJson ids value = .ok query := by
  induction values generalizing place queries with
  | nil =>
    obtain rfl : [] = queries := Except.ok.inj h
    contradiction
  | cons first rest ih =>
    simp only [listOfJson, bind_eq_ok, pure_eq_ok] at h
    obtain ⟨found, hFirst, others, hRest, rfl⟩ := h
    rcases List.mem_cons.mp hQuery with rfl | hOther
    · exact ⟨_, _, hFirst⟩
    · exact ih hRest hOther

theorem QueryDocument.exists_of_read {fresh : Nat → FreshIds} {value : Json}
    (h : read fresh value = .ok queries) (hQuery : query ∈ queries) :
    ∃ ids value, Query.ofJson ids value = .ok query := by
  unfold read at h
  split at h
  · next many hMany =>
    obtain rfl : many = queries := Except.ok.inj h
    unfold readMany at hMany
    split at hMany
    · exact Query.exists_of_listOfJson hMany hQuery
    · contradiction
  · split at h
    · next single hSingle =>
      obtain rfl : [single] = queries := Except.ok.inj h
      obtain rfl : query = single := List.mem_singleton.mp hQuery
      exact ⟨_, _, hSingle⟩
    · contradiction

theorem Query.distinct_of_ofJson {fresh : FreshIds} {value : Json}
    (h : ofJson fresh value = .ok query) : (query.searchTypes.map SearchType.id).Nodup := by
  obtain ⟨draft, -, hBuild⟩ := bind_eq_ok.mp h
  obtain ⟨searchTypes, hAssigned, hMade⟩ := bind_eq_ok.mp hBuild
  rw [pure_eq_ok] at hMade
  obtain ⟨hDistinct, rfl⟩ := assignIds_eq_ok_iff.mp hAssigned
  rw [← hMade]
  exact hDistinct

theorem File.distinct_of_readQueries {fresh : Nat → FreshIds} {file : File}
    (h : file.readQueries fresh = .ok queries) (hQuery : query ∈ queries) :
    (query.searchTypes.map SearchType.id).Nodup := by
  obtain ⟨value, -, hRead⟩ := bind_eq_ok.mp h
  obtain ⟨ids, written, hWritten⟩ := QueryDocument.exists_of_read (mapError_eq_ok.mp hRead) hQuery
  exact Query.distinct_of_ofJson hWritten

end Files

/-! ### The command -/

namespace Command

theorem showsAll_bodiesById_iff_of_plan {planner : Planner} {directory : Directory} {now : Instant}
    {state : RunState} {queries : List Query} {planned : List PlannedQuery}
    (hIds : (queries.map Query.id).Nodup)
    (hSearchTypes : ∀ query ∈ queries, (query.searchTypes.map SearchType.id).Nodup)
    (h : (planner.plan directory now state queries).outcome = .ok planned) :
    ShowsAll (planned.flatMap PlannedQuery.requests) (bodiesById planned) ↔
      ∀ first ∈ queries.filter fun query => state.global.keepsQuery query.id,
        ∀ second ∈ queries.filter fun query => state.global.keepsQuery query.id,
          ∀ part id, second.id = first.id ++ "/" ++ part → id ∈ second.idsToRun state →
            part ++ "/" ++ id ∉ first.idsToRun state := by
  rw [showsAll_bodiesById_iff, PlannedRequest.map_printedName, idents_of_plan h]
  exact nodup_printedNames_iff (hIds.sublist (List.filter_sublist.map _))
    fun query hQuery => hSearchTypes query (List.mem_of_mem_filter hQuery)

/-- Printing a plan shows under each name the last of the requests with that name.  Of queries with
distinct ids it shows all requests if and only if no two are run of which the id of the second is
that of the first, a slash and a part, while the id of a search type of the first is that part, a
slash and the id of a search type of the second.  So nothing is lost where the ids of queries are
free of slashes, or those of search types. -/
theorem printed_plan_shows_all_iff {setting : Setting} {file : File} {stateFile : Option File}
    {queries : List Query} {state : RunState} {planned : List PlannedQuery}
    (hQueries : file.readQueries setting.fresh = .ok queries)
    (hState : File.readState stateFile = .ok state) (hIds : (queries.map Query.id).Nodup)
    (hPlan : ((planner setting).plan setting.catalog.directory setting.now state queries).outcome =
      .ok planned) :
    let requests := planned.flatMap PlannedQuery.requests
    let kept := queries.filter fun query => state.global.keepsQuery query.id
    ∃ printed : Keyed Json,
      run setting (.plan file stateFile) = .ok (.json (.keyed id printed)) ∧
      (∀ name, printed.get? name =
        (requests.reverse.find? fun request => request.printedName == name).map fun request =>
          request.body.toJson) ∧
      (ShowsAll requests printed ↔
        ∀ first ∈ kept, ∀ second ∈ kept, ∀ part id, second.id = first.id ++ "/" ++ part →
          id ∈ second.idsToRun state → part ++ "/" ++ id ∉ first.idsToRun state) ∧
      ((∀ query ∈ kept, '/' ∉ query.id.toList) ∨
          (∀ query ∈ kept, ∀ id ∈ query.idsToRun state, '/' ∉ id.toList) →
        ShowsAll requests printed) := by
  intro requests kept
  have hPlanned : planFiles setting file stateFile = .ok planned :=
    bind_eq_ok.mpr ⟨queries, hQueries, bind_eq_ok.mpr ⟨state, hState, mapError_eq_ok.mpr hPlan⟩⟩
  have hRun : run setting (.plan file stateFile) = .ok (.json (.keyed id (bodiesById planned))) :=
    bind_eq_ok.mpr ⟨planned, hPlanned, rfl⟩
  have hShows := showsAll_bodiesById_iff_of_plan hIds
    (fun query hQuery => File.distinct_of_readQueries hQueries hQuery) hPlan
  refine ⟨_, hRun, get?_bodiesById planned, hShows, fun hPlain => hShows.mpr ?_⟩
  intro first hFirst second hSecond part id hPart hId hOther
  rcases hPlain with hPlain | hPlain
  · refine hPlain second hSecond ?_
    simp [hPart]
  · refine hPlain first hFirst _ hOther ?_
    simp

/-- Ids with slashes, of which the one of the second query continues that of the first, and yet
both requests are shown. -/
theorem printed_plan_shows_all_of_apart :
    let text := Json.arr
      [.obj [("id", .str "team"), ("search_types",
        .arr [.obj [("id", .str "web/errors"), ("type", .str "messages")]])],
       .obj [("id", .str "team/web"), ("search_types",
        .arr [.obj [("id", .str "alerts"), ("type", .str "messages")]])]]
    let file : File := ⟨"queries.json", some text.compact⟩
    let setting : Setting := { now := .epoch, fresh := fun _ => ⟨"query", fun _ => "search"⟩ }
    ∃ planned printed, planFiles setting file none = .ok planned ∧
      run setting (.plan file none) = .ok (.json (.keyed id printed)) ∧
      (planned.flatMap PlannedQuery.requests).map PlannedRequest.ident =
        [("team", "web/errors"), ("team/web", "alerts")] ∧
      ShowsAll (planned.flatMap PlannedQuery.requests) printed := by
  intro text file setting
  let query (id list : String) : Query :=
    { id, timeRange := .default, text := .empty, filter := none, searchFilters := []
      searchTypes := [{ id := list, detail := .messages {} }], override := none }
  have hQueries : file.readQueries setting.fresh =
      .ok [query "team" "web/errors", query "team/web" "alerts"] := by
    decide +kernel
  obtain ⟨planned, hPlan⟩ : ∃ planned, ((planner setting).plan setting.catalog.directory
      setting.now .empty [query "team" "web/errors", query "team/web" "alerts"]).outcome =
        .ok planned :=
    ⟨_, by with_unfolding_all rfl⟩
  have hState : File.readState none = .ok .empty := rfl
  obtain ⟨printed, hRun, -, hShows, -⟩ :=
    printed_plan_shows_all_iff hQueries hState (by decide) hPlan
  refine ⟨planned, printed, ?_, hRun, ?_, hShows.mpr ?_⟩
  · exact bind_eq_ok.mpr ⟨_, hQueries, bind_eq_ok.mpr ⟨_, hState, mapError_eq_ok.mpr hPlan⟩⟩
  · rw [idents_of_plan hPlan]
    decide +kernel
  · intro first hFirst second hSecond part id hPart hId hOther
    have hIdsToRun (name list : String) : (query name list).idsToRun .empty = [list] := rfl
    rcases List.mem_pair.mp (List.mem_of_mem_filter hFirst) with rfl | rfl <;>
      rcases List.mem_pair.mp (List.mem_of_mem_filter hSecond) with rfl | rfl
    · simpa [query] using congrArg String.toList hPart
    · rw [hIdsToRun, List.mem_singleton] at hId hOther
      simpa [hId] using congrArg (fun text => text.toList.reverse) hOther
    · simpa [query] using congrArg String.toList hPart
    · simpa [query] using congrArg String.toList hPart

/-- Two queries with distinct ids ask for one newest message and for two.  Both requests are planned
under the name of the second, and the first is not shown. -/
theorem printed_plan_loses_request :
    let query (id list : String) (limit : Int) : Json := .obj
      [("id", .str id), ("search_types",
        .arr [.obj [("id", .str list), ("limit", .int limit), ("type", .str "messages")]])]
    let file : File :=
      ⟨"queries.json", some (Json.arr [query "a" "b/c" 1, query "a/b" "c" 2]).compact⟩
    let setting : Setting := { now := .epoch, fresh := fun _ => ⟨"query", fun _ => "search"⟩ }
    ∃ queries planned printed, file.readQueries setting.fresh = .ok queries ∧
      (queries.map Query.id).Nodup ∧ planFiles setting file none = .ok planned ∧
      run setting (.plan file none) = .ok (.json (.keyed id printed)) ∧
      (planned.flatMap PlannedQuery.requests).map PlannedRequest.ident =
        [("a", "b/c"), ("a/b", "c")] ∧
      printed.entries.map Prod.fst = ["a/b/c"] ∧
      ¬ ShowsAll (planned.flatMap PlannedQuery.requests) printed := by
  intro query file setting
  let read (id list : String) (limit : UInt32) : Query :=
    { id, timeRange := .default, text := .empty, filter := none, searchFilters := []
      searchTypes := [{ id := list, detail := .messages { limit } }], override := none }
  have hQueries : file.readQueries setting.fresh = .ok [read "a" "b/c" 1, read "a/b" "c" 2] := by
    decide +kernel
  obtain ⟨planned, hPlan, hIdents, hEntries⟩ : ∃ planned,
      ((planner setting).plan setting.catalog.directory setting.now .empty
        [read "a" "b/c" 1, read "a/b" "c" 2]).outcome = .ok planned ∧
      (planned.flatMap PlannedQuery.requests).map PlannedRequest.ident =
        [("a", "b/c"), ("a/b", "c")] ∧
      (bodiesById planned).entries.map Prod.fst = ["a/b/c"] :=
    ⟨_, by with_unfolding_all rfl, by decide +kernel, by decide +kernel⟩
  have hPlanned : planFiles setting file none = .ok planned :=
    bind_eq_ok.mpr ⟨_, hQueries, bind_eq_ok.mpr ⟨_, rfl, mapError_eq_ok.mpr hPlan⟩⟩
  refine ⟨_, planned, bodiesById planned, hQueries, by decide, hPlanned,
    bind_eq_ok.mpr ⟨planned, hPlanned, rfl⟩, hIdents, hEntries, ?_⟩
  rw [showsAll_bodiesById_iff, PlannedRequest.map_printedName, hIdents]
  decide

end Command

end LogSearch
