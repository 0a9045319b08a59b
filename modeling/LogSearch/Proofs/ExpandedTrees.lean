import LogSearch.Proofs.WellFormed

/-!
# The trees that expansion returns

What an expanded tree looks like is settled by its leaves: `exists_leaf_iff` says
which leaves are left, and a well-formed tree has at least one.  So nothing is
left of a filter exactly if each of its leaves is a category without a readable
stream.

A well-formed tree without categories is returned as it is, before any question
is asked.  Since expansion only returns such trees, a second expansion changes
nothing, even if the directory has changed in between.
-/

namespace LogSearch

namespace Filter

/-! ### Leaves -/

theorem WellFormed.exists_leaf {filter : Filter} (h : filter.WellFormed) :
    ∃ leaf ∈ filter.nodes, leaf.children? = none := by
  have hBelow {parent : Filter} {children : List Filter}
      (hParent : parent.children? = some children) (hNonempty : children ≠ [])
      (hEach : ∀ child ∈ children, ∃ leaf ∈ child.nodes, leaf.children? = none) :
      ∃ leaf ∈ parent.nodes, leaf.children? = none := by
    obtain ⟨first, hFirst⟩ := List.exists_mem_of_ne_nil children hNonempty
    obtain ⟨leaf, hNode, hLeaf⟩ := hEach first hFirst
    exact ⟨leaf, mem_nodes_of_children? hParent hFirst hNode, hLeaf⟩
  induction h with
  | and hNonempty hNodup hEach ih => exact hBelow rfl hNonempty ih
  | or hNonempty hNodup hEach ih => exact hBelow rfl hNonempty ih
  | stream id => exact ⟨_, mem_nodes_self _, rfl⟩
  | category name => exact ⟨_, mem_nodes_self _, rfl⟩
  | queryString query => exact ⟨_, mem_nodes_self _, rfl⟩

section Leaves

variable {directory : Directory} {filter : Filter} {left : Option Filter}

theorem Becomes.isLeaf {declared leaf : Filter} (h : Becomes directory declared leaf) :
    declared.children? = none ∧ leaf.children? = none := by
  cases h <;> exact ⟨rfl, rfl⟩

/-- Only a category of which no stream may be read becomes nothing. -/
theorem exists_becomes_iff {declared : Filter} (hLeaf : declared.children? = none) :
    (∃ leaf, Becomes directory declared leaf) ↔
      ¬ ∃ name, declared = .category name ∧ directory.granted name = [] := by
  cases declared with
  | and children => contradiction
  | or children => contradiction
  | stream id => exact iff_of_true ⟨_, .stream id⟩ (by simp)
  | category name =>
    simp only [becomes_category_iff, category.injEq, exists_eq_left',
      List.eq_nil_iff_forall_not_mem, not_forall, not_not]
    constructor
    · rintro ⟨leaf, id, hGranted, -⟩
      exact ⟨id, hGranted⟩
    · rintro ⟨id, hGranted⟩
      exact ⟨_, id, hGranted, rfl⟩
  | queryString query => exact iff_of_true ⟨_, .queryString query⟩ (by simp)

/-- Nothing is left exactly if no leaf has become anything. -/
theorem eq_none_iff_of_expand (h : (expand directory filter).outcome = .ok left) :
    left = none ↔ ∀ declared ∈ filter.nodes, declared.children? = none →
      ∃ name, declared = .category name ∧ directory.granted name = [] := by
  constructor
  · rintro rfl declared hDeclared hLeaf
    by_contra hKept
    obtain ⟨leaf, hBecomes⟩ := (exists_becomes_iff hLeaf).mpr hKept
    obtain ⟨expanded, hExpanded, -⟩ :=
      (exists_leaf_iff h hBecomes.isLeaf.2).mpr ⟨declared, hDeclared, hBecomes⟩
    contradiction
  · intro hGone
    cases left with
    | none => rfl
    | some expanded =>
      -- what is left has a leaf, so some declared leaf has become it after all
      obtain ⟨leaf, hNode, hLeaf⟩ := (wellFormed_of_expand h).exists_leaf
      obtain ⟨declared, hDeclared, hBecomes⟩ :=
        (exists_leaf_iff h hLeaf).mp ⟨expanded, rfl, hNode⟩
      have hDeclaredLeaf := hBecomes.isLeaf.1
      have hKept := (exists_becomes_iff hDeclaredLeaf).mp ⟨leaf, hBecomes⟩
      exact absurd (hGone declared hDeclared hDeclaredLeaf) hKept

theorem exists_queryString_iff (h : (expand directory filter).outcome = .ok left)
    (query : String) :
    (∃ expanded ∈ left, .queryString query ∈ expanded.nodes) ↔
      .queryString query ∈ filter.nodes := by
  rw [exists_leaf_iff h rfl]
  constructor
  · rintro ⟨declared, hDeclared, hBecomes⟩
    cases hBecomes with
    | queryString => exact hDeclared
  · exact fun hNode => ⟨_, hNode, .queryString query⟩

end Leaves

/-! ### A second expansion -/

theorem expandAll_of_kept {directory : Directory} {filters : List Filter}
    (hEach : ∀ filter ∈ filters, expand directory filter = pure (some filter)) :
    expandAll directory filters = pure filters := by
  induction filters with
  | nil => rfl
  | cons first rest ih =>
    obtain ⟨hFirst, hRest⟩ := List.forall_mem_cons.mp hEach
    rw [expandAll, hFirst, ih hRest]
    rfl

theorem gather_of_nodup {node : List Filter → Filter} {children : List Filter}
    (hNonempty : children ≠ []) (hNodup : children.Nodup) :
    gather node children = some (node children) :=
  mem_gather.mpr ⟨hNonempty, by rw [distinct_of_nodup hNodup]⟩

/-- A tree without categories is returned as it is, and no question is asked. -/
theorem expand_of_no_category (directory : Directory) {filter : Filter} (h : filter.WellFormed)
    (hNone : ∀ name, ¬ .category name ∈ filter.nodes) :
    expand directory filter = pure (some filter) := by
  have hBelow {parent child : Filter} {children : List Filter}
      (hParent : parent.children? = some children) (hChild : child ∈ children)
      (hNone : ∀ name, ¬ .category name ∈ parent.nodes) (name : String) :
      ¬ .category name ∈ child.nodes :=
    fun hNode => hNone name (mem_nodes_of_children? hParent hChild hNode)
  induction h with
  -- every child comes back, and since no two are equal none of them is merged
  | and hNonempty hNodup hEach ih =>
    have hKept := expandAll_of_kept fun child hChild =>
      ih child hChild (hBelow rfl hChild hNone)
    rw [expand, hKept, ← gather_of_nodup hNonempty hNodup]
    rfl
  | or hNonempty hNodup hEach ih =>
    have hKept := expandAll_of_kept fun child hChild =>
      ih child hChild (hBelow rfl hChild hNone)
    rw [expand, hKept, ← gather_of_nodup hNonempty hNodup]
    rfl
  | stream id => rfl
  | category name => exact absurd (mem_nodes_self _) (hNone name)
  | queryString query => rfl

theorem not_category_of_expand {directory : Directory} {filter expanded : Filter}
    (h : (expand directory filter).outcome = .ok (some expanded)) (name : String) :
    ¬ .category name ∈ expanded.nodes := by
  rw [← mem_categories]
  exact not_mem_categories_of_expand h

/-- Another directory finds nothing to do in what expansion has returned. -/
theorem expand_expand (directory other : Directory) (filter : Filter) :
    (expand directory filter >>= fun left => left.elim (pure none) (expand other)) =
      expand directory filter := by
  cases hExpand : (expand directory filter).outcome with
  | error error =>
    rw [Consult.bind_of_error hExpand, ← hExpand]
  | ok left =>
    have hAgain : left.elim (pure none) (expand other) = pure left := by
      cases left with
      | none => rfl
      | some expanded =>
        exact expand_of_no_category other (wellFormed_of_expand hExpand)
          (not_category_of_expand hExpand)
    rw [Consult.bind_of_ok hExpand, hAgain, Consult.asked_pure, Consult.outcome_pure,
      List.append_nil, ← hExpand]

/-! ### The whole of it -/

/-- If the directory never fails, expansion succeeds.  No category is left at any depth; the streams
are those that were named and those granted for the categories, the query texts are the same, and
nothing is left exactly of a filter whose leaves are all categories without a readable stream.  What
is left is well formed.  A well-formed filter without categories comes back at once, so a second
expansion changes nothing. -/
theorem expand_keeps_and_adds {directory : Directory} (hDirectory : directory.NeverFails)
    (filter : Filter) :
    (∃ left, (expand directory filter).outcome = .ok left ∧
      (∀ expanded ∈ left, expanded.WellFormed ∧ ∀ name, ¬ .category name ∈ expanded.nodes) ∧
      (∀ id, (∃ expanded ∈ left, id ∈ expanded.streamIds) ↔
        id ∈ filter.streamIds ∨ ∃ name ∈ filter.categories, id ∈ directory.granted name) ∧
      (∀ query, (∃ expanded ∈ left, .queryString query ∈ expanded.nodes) ↔
        .queryString query ∈ filter.nodes) ∧
      (left = none ↔ ∀ declared ∈ filter.nodes, declared.children? = none →
        ∃ name, declared = .category name ∧ directory.granted name = [])) ∧
    (filter.WellFormed → (∀ name, ¬ .category name ∈ filter.nodes) →
      expand directory filter = pure (some filter)) ∧
    (expand directory filter >>= fun left => left.elim (pure none) (expand directory)) =
      expand directory filter := by
  obtain ⟨left, hLeft⟩ := expand_succeeds hDirectory filter
  refine ⟨⟨left, hLeft, ?_, exists_streamId_iff hLeft, exists_queryString_iff hLeft,
    eq_none_iff_of_expand hLeft⟩, expand_of_no_category directory,
    expand_expand directory directory filter⟩
  rintro expanded rfl
  exact ⟨wellFormed_of_expand hLeft, not_category_of_expand hLeft⟩

/-- A category without a readable stream disappears with the node over it.  Of the other one a
stream is left, which the filter names as well. -/
theorem expand_keeps_and_adds_of_hidden_category :
    let catalog : Catalog :=
      { categories := .ofList [("web", ["front", "back"]), ("mail", ["inbox"])], allowAll := false
        allowed := .singleton "front" }
    let filter : Filter :=
      .and [.or [.category "mail"], .or [.stream "front", .category "web"],
        .queryString "error"]
    let expanded : Filter :=
      .and [.or [.stream "front", .or [.stream "front"]], .queryString "error"]
    (expand catalog.directory filter).outcome = .ok (some expanded) ∧
      expanded.WellFormed ∧
      (∀ id, id ∈ expanded.streamIds ↔
        id ∈ filter.streamIds ∨ ∃ name ∈ filter.categories,
          id ∈ catalog.directory.granted name) ∧
      expand catalog.directory expanded = pure (some expanded) := by
  intro catalog filter expanded
  obtain ⟨⟨left, hLeft, hTree, hIds, -, -⟩, -, -⟩ :=
    expand_keeps_and_adds catalog.directory_neverFails filter
  have hOutcome : (expand catalog.directory filter).outcome = .ok (some expanded) := by decide
  obtain rfl : some expanded = left := Except.ok.inj (hOutcome.symm.trans hLeft)
  obtain ⟨hWellFormed, hNone⟩ := hTree expanded rfl
  refine ⟨hOutcome, hWellFormed, fun id => ?_, ?_⟩
  · simpa using hIds id
  · exact (expand_keeps_and_adds catalog.directory_neverFails expanded).2.1 hWellFormed hNone

end Filter

end LogSearch
