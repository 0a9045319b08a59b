import LogSearch.Directory
import LogSearch.Filter

/-!
# What filter trees mean

A filter tree is read for one document at a time.  Its inner nodes are boolean;
what its leaves say of the document is a `Filter.Reading`, left open here but for
one thing: the directory decides which streams stand behind a category, namely
those it lists for the category and permits to be read.

Leaves are told apart by `streamIds` and `categories`, for which one equation for
each kind of node is given, so that no later proof looks at the list of nodes.
-/

namespace LogSearch

namespace Directory

/-- Whether the directory answers that a stream may be read. -/
def permits (directory : Directory) (stream : String) : Bool :=
  match directory.mayRead stream with
  | .ok allowed => allowed
  | .error _ => false

/-- The streams listed for a category that may be read. -/
def granted (directory : Directory) (category : String) : List String :=
  match directory.streamsOf (.singleton category) with
  | .ok streams => streams.filter directory.permits
  | .error _ => []

theorem mem_granted {directory : Directory} {category stream : String} :
    stream ∈ directory.granted category ↔
      ∃ streams, directory.streamsOf (.singleton category) = .ok streams ∧ stream ∈ streams ∧
        directory.mayRead stream = .ok true := by
  have hPermits : directory.permits stream = true ↔ directory.mayRead stream = .ok true := by
    unfold permits
    split <;> simp_all
  unfold granted
  split
  · next streams hStreams => simp [hStreams, hPermits]
  · next error hError => simp [hError]

end Directory

namespace Filter

/-! ### Induction -/

/-- A property of filters that passes from all children to their node holds of all filters. -/
@[induction_eliminator]
theorem induction {motive : Filter → Prop}
    (and : ∀ children, (∀ child ∈ children, motive child) → motive (.and children))
    (or : ∀ children, (∀ child ∈ children, motive child) → motive (.or children))
    (stream : ∀ id, motive (.stream id)) (category : ∀ name, motive (.category name))
    (queryString : ∀ query, motive (.queryString query)) (filter : Filter) : motive filter :=
  @Filter.rec motive (fun children => ∀ child ∈ children, motive child)
    and or stream category queryString (by simp)
    (fun first rest hFirst hRest => by
      intro child hChild
      rcases List.mem_cons.mp hChild with rfl | hLater
      · exact hFirst
      · exact hRest child hLater) filter

/-! ### Meaning -/

/-- What the leaves of a filter say of one document. -/
structure Reading where
  /-- Whether the document is in a stream. -/
  inStream : String → Bool
  /-- Whether the document is in a stream of a category. -/
  inCategory : String → Bool
  /-- Whether the document matches a query text. -/
  matchesText : String → Bool

mutual

/-- Whether a filter admits the document that its leaves are read for. -/
def holds (reading : Reading) : Filter → Bool
  | .and children => allHold reading children
  | .or children => anyHolds reading children
  | .stream id => reading.inStream id
  | .category name => reading.inCategory name
  | .queryString query => reading.matchesText query

/-- Whether every filter of a list admits the document. -/
def allHold (reading : Reading) : List Filter → Bool
  | [] => true
  | first :: rest => holds reading first && allHold reading rest

/-- Whether some filter of a list admits the document. -/
def anyHolds (reading : Reading) : List Filter → Bool
  | [] => false
  | first :: rest => holds reading first || anyHolds reading rest

end

theorem allHold_eq_all (reading : Reading) (filters : List Filter) :
    allHold reading filters = filters.all (holds reading) := by
  induction filters with
  | nil => rfl
  | cons first rest ih => rw [allHold, List.all_cons, ih]

theorem anyHolds_eq_any (reading : Reading) (filters : List Filter) :
    anyHolds reading filters = filters.any (holds reading) := by
  induction filters with
  | nil => rfl
  | cons first rest ih => rw [anyHolds, List.any_cons, ih]

@[simp]
theorem holds_and (reading : Reading) (children : List Filter) :
    holds reading (.and children) = children.all (holds reading) := by
  rw [holds, allHold_eq_all]

@[simp]
theorem holds_or (reading : Reading) (children : List Filter) :
    holds reading (.or children) = children.any (holds reading) := by
  rw [holds, anyHolds_eq_any]

@[simp]
theorem holds_stream (reading : Reading) (id : String) :
    holds reading (.stream id) = reading.inStream id :=
  rfl

@[simp]
theorem holds_category (reading : Reading) (name : String) :
    holds reading (.category name) = reading.inCategory name :=
  rfl

@[simp]
theorem holds_queryString (reading : Reading) (query : String) :
    holds reading (.queryString query) = reading.matchesText query :=
  rfl

@[simp]
theorem all_distinct (test : Filter → Bool) (filters : List Filter) :
    (distinct filters).all test = filters.all test := by
  rw [Bool.eq_iff_iff, List.all_eq_true, List.all_eq_true]
  simp only [mem_distinct]

@[simp]
theorem any_distinct (test : Filter → Bool) (filters : List Filter) :
    (distinct filters).any test = filters.any test := by
  rw [Bool.eq_iff_iff, List.any_eq_true, List.any_eq_true]
  simp only [mem_distinct]

/-! ### Nodes and leaves -/

theorem nodesOfAll_eq_flatMap (filters : List Filter) :
    nodesOfAll filters = filters.flatMap nodes := by
  induction filters with
  | nil => rfl
  | cons first rest ih => rw [nodesOfAll, List.flatMap_cons, ih]

theorem mem_nodesOfAll {node : Filter} {filters : List Filter} :
    node ∈ nodesOfAll filters ↔ ∃ filter ∈ filters, node ∈ filter.nodes := by
  rw [nodesOfAll_eq_flatMap, List.mem_flatMap]

theorem mem_nodes_self (filter : Filter) : filter ∈ filter.nodes := by
  cases filter <;> simp [nodes]

theorem nodes_of_children? {parent : Filter} {children : List Filter}
    (h : parent.children? = some children) :
    parent.nodes = parent :: children.flatMap nodes := by
  rw [← nodesOfAll_eq_flatMap]
  cases parent with
  | and others => rw [nodes, Option.some.inj h]
  | or others => rw [nodes, Option.some.inj h]
  | stream id => contradiction
  | category name => contradiction
  | queryString query => contradiction

theorem mem_nodes_of_children? {node child parent : Filter} {children : List Filter}
    (hParent : parent.children? = some children) (hChild : child ∈ children)
    (hNode : node ∈ child.nodes) : node ∈ parent.nodes := by
  rw [nodes_of_children? hParent]
  exact List.mem_cons_of_mem _ (List.mem_flatMap.mpr ⟨child, hChild, hNode⟩)

/-- What an inner node is not itself, it has to be below. -/
theorem exists_mem_nodes_iff {P : Filter → Prop} {parent : Filter} {children : List Filter}
    (hParent : parent.children? = some children) (hNot : ¬ P parent) :
    (∃ node ∈ parent.nodes, P node) ↔ ∃ child ∈ children, ∃ node ∈ child.nodes, P node := by
  constructor
  · rintro ⟨node, hNode, hHas⟩
    rw [nodes_of_children? hParent] at hNode
    rcases List.mem_cons.mp hNode with rfl | hBelow
    · exact absurd hHas hNot
    · obtain ⟨child, hChild, hNode⟩ := List.mem_flatMap.mp hBelow
      exact ⟨child, hChild, node, hNode, hHas⟩
  · rintro ⟨child, hChild, node, hNode, hHas⟩
    exact ⟨node, mem_nodes_of_children? hParent hChild hNode, hHas⟩

theorem leaf_mem_nodes_iff {leaf parent : Filter} {children : List Filter}
    (hParent : parent.children? = some children) (hLeaf : leaf.children? = none) :
    leaf ∈ parent.nodes ↔ ∃ child ∈ children, leaf ∈ child.nodes := by
  have hNot : ¬ leaf = parent := by
    rintro rfl
    simp [hLeaf] at hParent
  simpa using exists_mem_nodes_iff (P := (leaf = ·)) hParent hNot

theorem mem_streamIds {id : String} {filter : Filter} :
    id ∈ filter.streamIds ↔ .stream id ∈ filter.nodes := by
  have hLeaf (node : Filter) : node.streamId? = some id ↔ node = .stream id := by
    cases node <;> simp [streamId?]
  simp [streamIds, hLeaf]

theorem mem_categories {name : String} {filter : Filter} :
    name ∈ filter.categories ↔ .category name ∈ filter.nodes := by
  have hLeaf (node : Filter) : node.categoryName? = some name ↔ node = .category name := by
    cases node <;> simp [categoryName?]
  simp [categories, hLeaf]

@[simp]
theorem mem_streamIds_and {id : String} {children : List Filter} :
    id ∈ (Filter.and children).streamIds ↔ ∃ child ∈ children, id ∈ child.streamIds := by
  simp [mem_streamIds, nodes, mem_nodesOfAll]

@[simp]
theorem mem_streamIds_or {id : String} {children : List Filter} :
    id ∈ (Filter.or children).streamIds ↔ ∃ child ∈ children, id ∈ child.streamIds := by
  simp [mem_streamIds, nodes, mem_nodesOfAll]

@[simp]
theorem mem_streamIds_stream {id other : String} :
    id ∈ (Filter.stream other).streamIds ↔ id = other := by
  simp [mem_streamIds, nodes]

@[simp]
theorem not_mem_streamIds_category {id name : String} :
    ¬ id ∈ (Filter.category name).streamIds := by
  simp [mem_streamIds, nodes]

@[simp]
theorem not_mem_streamIds_queryString {id query : String} :
    ¬ id ∈ (Filter.queryString query).streamIds := by
  simp [mem_streamIds, nodes]

@[simp]
theorem mem_categories_and {name : String} {children : List Filter} :
    name ∈ (Filter.and children).categories ↔ ∃ child ∈ children, name ∈ child.categories := by
  simp [mem_categories, nodes, mem_nodesOfAll]

@[simp]
theorem mem_categories_or {name : String} {children : List Filter} :
    name ∈ (Filter.or children).categories ↔ ∃ child ∈ children, name ∈ child.categories := by
  simp [mem_categories, nodes, mem_nodesOfAll]

@[simp]
theorem mem_categories_category {name other : String} :
    name ∈ (Filter.category other).categories ↔ name = other := by
  simp [mem_categories, nodes]

@[simp]
theorem not_mem_categories_stream {name id : String} : ¬ name ∈ (Filter.stream id).categories := by
  simp [mem_categories, nodes]

@[simp]
theorem not_mem_categories_queryString {name query : String} :
    ¬ name ∈ (Filter.queryString query).categories := by
  simp [mem_categories, nodes]

end Filter

end LogSearch
