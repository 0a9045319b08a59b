import LogSearch.Proofs.Names
import LogSearch.Proofs.Planning
import LogSearch.Proofs.WellFormed

/-!
# Restricting a query to streams

A query that is restricted to streams asks for one of them on top of what it asks for
anyway.  The filter tree in which this is said has one of several shapes, a leaf, a
disjunction of leaves or the conjunction of either with the tree that was there.  For each
of the two constructors involved it is said once what it admits and which leaves it has;
from then on a restricted query is known by the documents it admits and by the streams
and categories it names, which are the same whichever shape it has.
-/

namespace LogSearch

namespace Filter

/-! ### The filters that say so -/

section Both

variable {left right : Filter}

theorem holds_both (reading : Reading) (left right : Filter) :
    (both left right).holds reading = (left.holds reading && right.holds reading) := by
  unfold both
  split
  · next hSame => rw [hSame, Bool.and_self]
  · simp

theorem leaf_mem_nodes_both {leaf : Filter} (hLeaf : leaf.children? = none) :
    leaf ∈ (both left right).nodes ↔ leaf ∈ left.nodes ∨ leaf ∈ right.nodes := by
  unfold both
  split
  · next hSame => rw [hSame, or_self_iff]
  · rw [leaf_mem_nodes_iff rfl hLeaf]
    simp

theorem mem_streamIds_both {id : String} :
    id ∈ (both left right).streamIds ↔ id ∈ left.streamIds ∨ id ∈ right.streamIds := by
  simp only [mem_streamIds]
  exact leaf_mem_nodes_both rfl

theorem mem_categories_both {name : String} :
    name ∈ (both left right).categories ↔ name ∈ left.categories ∨ name ∈ right.categories := by
  simp only [mem_categories]
  exact leaf_mem_nodes_both rfl

end Both

theorem anyStreamOf_eq_none_iff {ids : List String} : anyStreamOf ids = none ↔ ids = [] := by
  unfold anyStreamOf
  split <;> simp_all

section AnyStream

variable {ids : List String} {filter : Filter} (h : anyStreamOf ids = some filter)
include h

theorem holds_of_anyStreamOf (reading : Reading) :
    filter.holds reading = true ↔ ∃ id ∈ ids, reading.inStream id = true := by
  rcases eq_of_anyStreamOf h with ⟨id, rfl, rfl⟩ | ⟨-, rfl⟩
  · simp
  · simp

theorem leaf_mem_nodes_of_anyStreamOf {leaf : Filter} (hLeaf : leaf.children? = none) :
    leaf ∈ filter.nodes ↔ leaf ∈ ids.map .stream := by
  rcases eq_of_anyStreamOf h with ⟨id, rfl, rfl⟩ | ⟨-, rfl⟩
  · exact Iff.rfl
  · rw [leaf_mem_nodes_iff rfl hLeaf]
    simp [nodes, eq_comm]

theorem mem_streamIds_of_anyStreamOf {id : String} : id ∈ filter.streamIds ↔ id ∈ ids := by
  rw [mem_streamIds, leaf_mem_nodes_of_anyStreamOf h rfl]
  simp

theorem not_mem_categories_of_anyStreamOf {name : String} : ¬ name ∈ filter.categories := by
  rw [mem_categories, leaf_mem_nodes_of_anyStreamOf h rfl]
  simp

end AnyStream

end Filter

namespace Query

/-- The filter tree, if there is one, admits the document that its leaves are read for. -/
def Admits (reading : Filter.Reading) (query : Query) : Prop :=
  ∀ filter, query.filter = some filter → filter.holds reading = true

/-! ### The restricted query -/

section Restricted

variable {query : Query} {streams : NameSet}

theorem restrictTo_empty (query : Query) : query.restrictTo ∅ = query :=
  rfl

/-- The restriction is put in front of the filter tree, and stands alone if there is none. -/
theorem restrictTo_eq (query : Query) (h : streams ≠ ∅) :
    ∃ restriction, Filter.anyStreamOf streams.toList = some restriction ∧
      query.restrictTo streams =
        query.withFilter (some (query.filter.elim restriction (.both restriction))) := by
  cases hStreams : Filter.anyStreamOf streams.toList with
  | none =>
    have hNil : streams.toList = [] := Filter.anyStreamOf_eq_none_iff.mp hStreams
    exact absurd (NameSet.isEmpty_iff.mp (List.isEmpty_iff.mpr hNil)) h
  | some restriction =>
    refine ⟨restriction, rfl, ?_⟩
    rw [restrictTo, hStreams]
    cases query.filter <;> rfl

theorem admits_restrictTo_of_ne_empty (h : streams ≠ ∅) (reading : Filter.Reading) :
    (query.restrictTo streams).Admits reading ↔
      query.Admits reading ∧ ∃ id ∈ streams, reading.inStream id = true := by
  obtain ⟨restriction, hRestriction, hEq⟩ := restrictTo_eq query h
  have hStreams : restriction.holds reading = true ↔
      ∃ id ∈ streams, reading.inStream id = true :=
    Filter.holds_of_anyStreamOf hRestriction reading
  rw [hEq, ← hStreams]
  unfold Admits withFilter
  cases query.filter with
  | none => simp
  | some own => simp [Filter.holds_both, and_comm]

/-- No streams are no restriction. -/
theorem admits_restrictTo (reading : Filter.Reading) :
    (query.restrictTo streams).Admits reading ↔
      query.Admits reading ∧ (streams = ∅ ∨ ∃ id ∈ streams, reading.inStream id = true) := by
  by_cases h : streams = ∅
  · simp [h, restrictTo_empty]
  · simp [h, admits_restrictTo_of_ne_empty]

theorem mem_filterStreams_restrictTo {id : String} :
    id ∈ (query.restrictTo streams).filterStreams ↔ id ∈ query.filterStreams ∨ id ∈ streams := by
  by_cases h : streams = ∅
  · simp [h, restrictTo_empty]
  · obtain ⟨restriction, hRestriction, hEq⟩ := restrictTo_eq query h
    have hStreams : id ∈ restriction.streamIds ↔ id ∈ streams :=
      Filter.mem_streamIds_of_anyStreamOf hRestriction
    rw [hEq, ← hStreams]
    unfold filterStreams withFilter
    cases query.filter with
    | none => simp
    | some own => simp [Filter.mem_streamIds_both, or_comm]

theorem searchTypes_restrictTo : (query.restrictTo streams).searchTypes = query.searchTypes := by
  unfold restrictTo
  split <;> rfl

/-- The check of permissions sees the streams of the restriction and loses none. -/
theorem namedStreams_restrictTo :
    (query.restrictTo streams).namedStreams = query.namedStreams ∪ streams := by
  refine NameSet.ext fun id => ?_
  rw [mem_namedStreams, searchTypes_restrictTo, mem_filterStreams_restrictTo, NameSet.mem_union,
    mem_namedStreams, or_right_comm]

theorem filterCategories_restrictTo :
    (query.restrictTo streams).filterCategories = query.filterCategories := by
  by_cases h : streams = ∅
  · rw [h, restrictTo_empty]
  · obtain ⟨restriction, hRestriction, hEq⟩ := restrictTo_eq query h
    refine NameSet.ext fun name => ?_
    have hNone : ¬ name ∈ restriction.categories :=
      Filter.not_mem_categories_of_anyStreamOf hRestriction
    rw [hEq]
    unfold filterCategories withFilter
    cases query.filter with
    | none => simp [hNone]
    | some own => simp [Filter.mem_categories_both, hNone]

theorem withFilter_restrictTo : (query.restrictTo streams).withFilter query.filter = query := by
  unfold restrictTo
  split <;> rfl

/-- Restricting changes the filter tree and nothing else. -/
theorem restrictTo_eq_withFilter (query : Query) (streams : NameSet) :
    query.restrictTo streams = query.withFilter (query.restrictTo streams).filter := by
  unfold restrictTo
  split <;> rfl

/-- The restricted tree takes over what holds of the tree that was there and of the restriction. -/
theorem restrictTo_keeps {P : Filter → Prop}
    (hBoth : ∀ left right, P left → P right → P (.both left right))
    (hStreams : ∀ restriction, Filter.anyStreamOf streams.toList = some restriction → P restriction)
    (hOwn : ∀ tree, query.filter = some tree → P tree) :
    ∀ tree, (query.restrictTo streams).filter = some tree → P tree := by
  by_cases h : streams = ∅
  · rwa [h, restrictTo_empty]
  · obtain ⟨restriction, hRestriction, hEq⟩ := restrictTo_eq query h
    rw [hEq]
    rintro tree ⟨⟩
    cases hFilter : query.filter with
    | none => exact hStreams restriction hRestriction
    | some own => exact hBoth _ _ (hStreams restriction hRestriction) (hOwn own hFilter)

theorem wellFormed_restrictTo (hOwn : ∀ tree, query.filter = some tree → tree.WellFormed) :
    ∀ tree, (query.restrictTo streams).filter = some tree → tree.WellFormed :=
  restrictTo_keeps (fun _ _ => Filter.wellFormed_both)
    (fun _ => Filter.wellFormed_of_anyStreamOf) hOwn

end Restricted

/-! ### The whole statement -/

/-- No streams leave a query as it is.  Some streams make of its filter tree the conjunction of what
it said before, be it nothing, and of being in one of the streams; they join the streams that have
to be permitted; and nothing else changes, neither the categories of the tree nor its being well
formed.  So two restrictions in either order admit the same documents and ask for the same
permissions. -/
theorem restrictTo_exact (query : Query) (streams : NameSet) :
    (streams = ∅ → query.restrictTo streams = query) ∧
      (streams ≠ ∅ →
        (∀ reading, (query.restrictTo streams).Admits reading ↔
          query.Admits reading ∧ ∃ id ∈ streams, reading.inStream id = true) ∧
        (query.restrictTo streams).namedStreams = query.namedStreams ∪ streams ∧
        (query.restrictTo streams).filterCategories = query.filterCategories ∧
        (query.restrictTo streams).withFilter query.filter = query ∧
        ((∀ tree, query.filter = some tree → tree.WellFormed) →
          ∀ tree, (query.restrictTo streams).filter = some tree → tree.WellFormed)) ∧
      ∀ others,
        (∀ reading, ((query.restrictTo streams).restrictTo others).Admits reading ↔
          ((query.restrictTo others).restrictTo streams).Admits reading) ∧
        ((query.restrictTo streams).restrictTo others).namedStreams =
          ((query.restrictTo others).restrictTo streams).namedStreams := by
  refine ⟨?_, fun hStreams => ?_, fun others => ⟨fun reading => ?_, ?_⟩⟩
  · rintro rfl
    exact restrictTo_empty query
  · exact ⟨admits_restrictTo_of_ne_empty hStreams, namedStreams_restrictTo,
      filterCategories_restrictTo, withFilter_restrictTo, wellFormed_restrictTo⟩
  · simp only [admits_restrictTo]
    exact and_right_comm
  · refine NameSet.ext fun id => ?_
    simp only [namedStreams_restrictTo, NameSet.mem_union]
    exact or_right_comm

end Query

end LogSearch
