import Mathlib.Data.List.ReduceOption
import LogSearch.Catalog
import LogSearch.Filter.Expansion
import LogSearch.Proofs.FilterMeaning
import LogSearch.Proofs.Outcome

/-!
# What expanding categories does to the meaning of a filter

Expansion drops a category of which no stream may be read, and every inner node
that loses all its children.  Dropping a child of a disjunction is harmless,
because what vanishes admits no document.  Dropping a child of a conjunction is
not: the conjunction then asks for less than it was declared to.

`remainderHolds` says which documents the expanded filter admits, in terms of the
declared one.  A well-formed filter always implies it (`remainderHolds_of_holds`);
it implies the filter as long as every conjunction keeps all its children or
loses all of them (`holds_of_remainderHolds`).
-/

namespace LogSearch

/-! ### Streams that may be read -/

namespace Directory

theorem readableOf_eq_ok {directory : Directory} {streams readable : List String}
    (h : (directory.readableOf streams).outcome = .ok readable) :
    readable = streams.filter directory.permits := by
  induction streams generalizing readable with
  | nil =>
    simp only [readableOf, Consult.outcome_pure, Except.ok.injEq] at h
    exact h.symm
  | cons stream rest ih =>
    simp only [readableOf, Consult.bind_eq_ok, Consult.outcome_pure, Except.ok.injEq] at h
    obtain ⟨allowed, hAllowed, others, hOthers, rfl⟩ := h
    have hPermits : directory.permits stream = allowed := by
      rw [askMayRead, mapError_eq_ok] at hAllowed
      rw [permits, hAllowed]
    rw [List.filter_cons, hPermits, ih hOthers]

/-- The streams found readable for a category are those that the directory grants for it. -/
theorem mem_readableStreams {directory : Directory} {category : String} {streams : NameSet}
    (h : (directory.readableStreams (.singleton category)).outcome = .ok streams)
    (stream : String) : stream ∈ streams ↔ stream ∈ directory.granted category := by
  simp only [readableStreams, Consult.bind_eq_ok, Consult.outcome_pure, Except.ok.injEq] at h
  obtain ⟨listed, hListed, readable, hReadable, rfl⟩ := h
  rw [askStreams, mapError_eq_ok] at hListed
  have hMem : stream ∈ (NameSet.ofList listed).toList ↔ stream ∈ listed := NameSet.mem_ofList
  rw [readableOf_eq_ok hReadable, NameSet.mem_ofList, List.mem_filter, hMem, granted, hListed,
    List.mem_filter]

/-- Neither kind of question ever fails. -/
def NeverFails (directory : Directory) : Prop :=
  (∀ categories, ∃ streams, directory.streamsOf categories = .ok streams) ∧
    ∀ stream, ∃ allowed, directory.mayRead stream = .ok allowed

theorem readableOf_succeeds {directory : Directory} (h : directory.NeverFails)
    (streams : List String) :
    ∃ readable, (directory.readableOf streams).outcome = .ok readable := by
  induction streams with
  | nil => exact ⟨[], rfl⟩
  | cons stream rest ih =>
    obtain ⟨allowed, hAllowed⟩ := h.2 stream
    obtain ⟨others, hOthers⟩ := ih
    refine ⟨if allowed then stream :: others else others, ?_⟩
    simp only [readableOf, Consult.bind_eq_ok, Consult.outcome_pure, Except.ok.injEq]
    exact ⟨allowed, mapError_eq_ok.mpr hAllowed, others, hOthers, rfl⟩

theorem readableStreams_succeeds {directory : Directory} (h : directory.NeverFails)
    (categories : NameSet) :
    ∃ streams, (directory.readableStreams categories).outcome = .ok streams := by
  obtain ⟨listed, hListed⟩ := h.1 categories
  obtain ⟨readable, hReadable⟩ := readableOf_succeeds h (NameSet.ofList listed).toList
  refine ⟨NameSet.ofList readable, ?_⟩
  simp only [readableStreams, Consult.bind_eq_ok, Consult.outcome_pure, Except.ok.injEq]
  exact ⟨listed, mapError_eq_ok.mpr hListed, readable, hReadable, rfl⟩

/-- The reading of a filter's leaves in which the directory decides what a category stands for. -/
def reading (directory : Directory) (inStream matchesText : String → Bool) : Filter.Reading where
  inStream := inStream
  inCategory name := (directory.granted name).any inStream
  matchesText := matchesText

end Directory

theorem Catalog.directory_neverFails (catalog : Catalog) : catalog.directory.NeverFails :=
  ⟨fun _ => ⟨_, rfl⟩, fun _ => ⟨_, rfl⟩⟩

namespace Filter

/-! ### What vanishes -/

mutual

/-- Whether nothing is left of a filter once its categories are replaced by readable streams. -/
def vanishes (directory : Directory) : Filter → Bool
  | .and children => allVanish directory children
  | .or children => allVanish directory children
  | .category name => (directory.granted name).isEmpty
  | .stream _ => false
  | .queryString _ => false

/-- Whether nothing is left of any filter of a list. -/
def allVanish (directory : Directory) : List Filter → Bool
  | [] => true
  | first :: rest => vanishes directory first && allVanish directory rest

end

theorem allVanish_eq_all (directory : Directory) (filters : List Filter) :
    allVanish directory filters = filters.all (vanishes directory) := by
  induction filters with
  | nil => rfl
  | cons first rest ih => rw [allVanish, List.all_cons, ih]

@[simp]
theorem vanishes_and (directory : Directory) (children : List Filter) :
    vanishes directory (.and children) = children.all (vanishes directory) := by
  rw [vanishes, allVanish_eq_all]

@[simp]
theorem vanishes_or (directory : Directory) (children : List Filter) :
    vanishes directory (.or children) = children.all (vanishes directory) := by
  rw [vanishes, allVanish_eq_all]

mutual

/-- Whether what is left of a filter admits the document that its leaves are read for. -/
def remainderHolds (directory : Directory) (reading : Reading) : Filter → Bool
  | .and children => allRemaindersHold directory reading children
  | .or children => anyRemainderHolds directory reading children
  | .stream id => reading.inStream id
  | .category name => reading.inCategory name
  | .queryString query => reading.matchesText query

/-- Whether every filter of a list that does not vanish admits the document. -/
def allRemaindersHold (directory : Directory) (reading : Reading) : List Filter → Bool
  | [] => true
  | first :: rest =>
    (vanishes directory first || remainderHolds directory reading first)
      && allRemaindersHold directory reading rest

/-- Whether some filter of a list that does not vanish admits the document. -/
def anyRemainderHolds (directory : Directory) (reading : Reading) : List Filter → Bool
  | [] => false
  | first :: rest =>
    (!vanishes directory first && remainderHolds directory reading first)
      || anyRemainderHolds directory reading rest

end

@[simp]
theorem remainderHolds_and (directory : Directory) (reading : Reading) (children : List Filter) :
    remainderHolds directory reading (.and children) =
      children.all fun child =>
        vanishes directory child || remainderHolds directory reading child := by
  rw [remainderHolds]
  induction children with
  | nil => rfl
  | cons first rest ih => rw [allRemaindersHold, List.all_cons, ih]

@[simp]
theorem remainderHolds_or (directory : Directory) (reading : Reading) (children : List Filter) :
    remainderHolds directory reading (.or children) =
      children.any fun child =>
        !vanishes directory child && remainderHolds directory reading child := by
  rw [remainderHolds]
  induction children with
  | nil => rfl
  | cons first rest ih => rw [anyRemainderHolds, List.any_cons, ih]

/-! ### What expansion returns -/

theorem expandAll_eq_ok_iff {directory : Directory} {filters kept : List Filter} :
    (expandAll directory filters).outcome = .ok kept ↔
      ∃ results, List.Forall₂ (fun filter left => (expand directory filter).outcome = .ok left)
        filters results ∧ kept = results.reduceOption := by
  induction filters generalizing kept with
  | nil =>
    simp only [expandAll, Consult.outcome_pure, Except.ok.injEq, List.forall₂_nil_left_iff]
    simp [eq_comm]
  | cons first rest ih =>
    simp only [expandAll, Consult.bind_eq_ok, Consult.outcome_pure, Except.ok.injEq, ih]
    constructor
    · rintro ⟨left, hFirst, others, ⟨results, hRest, rfl⟩, rfl⟩
      refine ⟨left :: results, .cons hFirst hRest, ?_⟩
      cases left <;> rfl
    · rintro ⟨results, hAll, rfl⟩
      cases hAll with
      | @cons _ left _ results hFirst hRest =>
        refine ⟨left, hFirst, results.reduceOption, ⟨results, hRest, rfl⟩, ?_⟩
        cases left <;> rfl

theorem gatherAll_eq_ok_iff {directory : Directory} {node : List Filter → Filter}
    {children : List Filter} {left : Option Filter} :
    (expandAll directory children >>= fun kept => pure (gather node kept)).outcome = .ok left ↔
      ∃ results, List.Forall₂ (fun child left => (expand directory child).outcome = .ok left)
        children results ∧ left = gather node results.reduceOption := by
  simp only [Consult.bind_eq_ok, Consult.outcome_pure, Except.ok.injEq, expandAll_eq_ok_iff]
  constructor
  · rintro ⟨kept, ⟨results, hResults, rfl⟩, rfl⟩
    exact ⟨results, hResults, rfl⟩
  · rintro ⟨results, hResults, rfl⟩
    exact ⟨results.reduceOption, ⟨results, hResults, rfl⟩, rfl⟩

theorem expand_and_eq_ok_iff {directory : Directory} {children : List Filter}
    {left : Option Filter} :
    (expand directory (.and children)).outcome = .ok left ↔
      ∃ results, List.Forall₂ (fun child left => (expand directory child).outcome = .ok left)
        children results ∧ left = gather .and results.reduceOption := by
  rw [expand, gatherAll_eq_ok_iff]

theorem expand_or_eq_ok_iff {directory : Directory} {children : List Filter}
    {left : Option Filter} :
    (expand directory (.or children)).outcome = .ok left ↔
      ∃ results, List.Forall₂ (fun child left => (expand directory child).outcome = .ok left)
        children results ∧ left = gather .or results.reduceOption := by
  rw [expand, gatherAll_eq_ok_iff]

theorem expand_stream_eq_ok_iff {directory : Directory} {id : String} {left : Option Filter} :
    (expand directory (.stream id)).outcome = .ok left ↔ left = some (.stream id) := by
  rw [expand, Consult.outcome_pure, Except.ok.injEq, eq_comm]

theorem expand_queryString_eq_ok_iff {directory : Directory} {query : String}
    {left : Option Filter} :
    (expand directory (.queryString query)).outcome = .ok left ↔
      left = some (.queryString query) := by
  rw [expand, Consult.outcome_pure, Except.ok.injEq, eq_comm]

theorem expand_category_eq_ok_iff {directory : Directory} {name : String}
    {left : Option Filter} :
    (expand directory (.category name)).outcome = .ok left ↔
      ∃ streams, (directory.readableStreams (.singleton name)).outcome = .ok streams ∧
        left = gather .or (streams.toList.map .stream) := by
  simp only [expand, Consult.bind_eq_ok, Consult.outcome_pure, Except.ok.injEq,
    eq_comm (b := left)]

/-! ### Which leaves are left -/

theorem mem_gather {node : List Filter → Filter} {kept : List Filter} {expanded : Filter} :
    expanded ∈ gather node kept ↔ kept ≠ [] ∧ expanded = node (distinct kept) := by
  cases kept with
  | nil => simp [gather]
  | cons first rest => simp [gather, eq_comm (a := expanded)]

theorem exists_mem_gather_iff {node : List Filter → Filter} {P : Filter → Prop}
    (hNode : ∀ children, P (node children) ↔ ∃ child ∈ children, P child) (kept : List Filter) :
    (∃ expanded ∈ gather node kept, P expanded) ↔ ∃ child ∈ kept, P child := by
  constructor
  · rintro ⟨expanded, hExpanded, hHas⟩
    obtain ⟨-, rfl⟩ := mem_gather.mp hExpanded
    simpa [hNode] using hHas
  · rintro ⟨child, hChild, hHas⟩
    refine ⟨node (distinct kept), mem_gather.mpr ⟨List.ne_nil_of_mem hChild, rfl⟩, ?_⟩
    exact (hNode _).mpr ⟨child, mem_distinct.mpr hChild, hHas⟩

theorem exists_mem_reduceOption_iff {P Q : Filter → Prop} {children : List Filter}
    {results : List (Option Filter)}
    (h : List.Forall₂ (fun child left => (∃ expanded ∈ left, P expanded) ↔ Q child)
      children results) :
    (∃ expanded ∈ results.reduceOption, P expanded) ↔ ∃ child ∈ children, Q child := by
  induction h with
  | nil => simp
  | @cons child left children results hChild hRest ih =>
    rw [List.exists_mem_cons_iff, ← ih, ← hChild]
    cases left <;> simp

/-- What becomes of a leaf: a category turns into the streams granted for it, and any other leaf
stays. -/
inductive Becomes (directory : Directory) : (declared left : Filter) → Prop
  | stream (id : String) : Becomes directory (.stream id) (.stream id)
  | granted {name id : String} (h : id ∈ directory.granted name) :
      Becomes directory (.category name) (.stream id)
  | queryString (query : String) : Becomes directory (.queryString query) (.queryString query)

theorem becomes_stream_iff {directory : Directory} {id : String} {left : Filter} :
    Becomes directory (.stream id) left ↔ left = .stream id := by
  constructor
  · rintro ⟨⟩
    rfl
  · rintro rfl
    exact .stream id

theorem becomes_category_iff {directory : Directory} {name : String} {left : Filter} :
    Becomes directory (.category name) left ↔
      ∃ id ∈ directory.granted name, left = .stream id := by
  constructor
  · intro hBecomes
    cases hBecomes with
    | granted hGranted => exact ⟨_, hGranted, rfl⟩
  · rintro ⟨id, hGranted, rfl⟩
    exact .granted hGranted

theorem becomes_queryString_iff {directory : Directory} {query : String} {left : Filter} :
    Becomes directory (.queryString query) left ↔ left = .queryString query := by
  constructor
  · rintro ⟨⟩
    rfl
  · rintro rfl
    exact .queryString query

/-- The leaves of what is left are what became of the leaves that were declared. -/
theorem exists_leaf_iff {directory : Directory} {filter leaf : Filter} {left : Option Filter}
    (h : (expand directory filter).outcome = .ok left) (hLeaf : leaf.children? = none) :
    (∃ expanded ∈ left, leaf ∈ expanded.nodes) ↔
      ∃ declared ∈ filter.nodes, Becomes directory declared leaf := by
  have hInner {parent : Filter} {children : List Filter}
      (hParent : parent.children? = some children) :
      (∃ declared ∈ parent.nodes, Becomes directory declared leaf) ↔
        ∃ child ∈ children, ∃ declared ∈ child.nodes, Becomes directory declared leaf := by
    refine exists_mem_nodes_iff (P := (Becomes directory · leaf)) hParent fun hBecomes => ?_
    cases hBecomes <;> contradiction
  induction filter generalizing left with
  | and children ih =>
    obtain ⟨results, hResults, rfl⟩ := expand_and_eq_ok_iff.mp h
    rw [exists_mem_gather_iff (fun _ => leaf_mem_nodes_iff rfl hLeaf), hInner rfl]
    exact exists_mem_reduceOption_iff (forall₂_imp_of_mem ih hResults)
  | or children ih =>
    obtain ⟨results, hResults, rfl⟩ := expand_or_eq_ok_iff.mp h
    rw [exists_mem_gather_iff (fun _ => leaf_mem_nodes_iff rfl hLeaf), hInner rfl]
    exact exists_mem_reduceOption_iff (forall₂_imp_of_mem ih hResults)
  | stream id =>
    obtain rfl := expand_stream_eq_ok_iff.mp h
    simp [nodes, becomes_stream_iff]
  | category name =>
    obtain ⟨streams, hStreams, rfl⟩ := expand_category_eq_ok_iff.mp h
    rw [exists_mem_gather_iff (fun _ => leaf_mem_nodes_iff rfl hLeaf)]
    have hMem (id : String) : id ∈ streams.toList ↔ id ∈ directory.granted name :=
      Directory.mem_readableStreams hStreams id
    simp [nodes, becomes_category_iff, hMem, eq_comm]
  | queryString query =>
    obtain rfl := expand_queryString_eq_ok_iff.mp h
    simp [nodes, becomes_queryString_iff]

/-- What is left names the streams that were named and those granted for the categories. -/
theorem exists_streamId_iff {directory : Directory} {filter : Filter} {left : Option Filter}
    (h : (expand directory filter).outcome = .ok left) (id : String) :
    (∃ expanded ∈ left, id ∈ expanded.streamIds) ↔
      id ∈ filter.streamIds ∨ ∃ name ∈ filter.categories, id ∈ directory.granted name := by
  simp only [mem_streamIds, mem_categories]
  rw [exists_leaf_iff h rfl]
  constructor
  · rintro ⟨declared, hDeclared, hBecomes⟩
    cases hBecomes with
    | stream => exact .inl hDeclared
    | granted hGranted => exact .inr ⟨_, hDeclared, hGranted⟩
  · rintro (hNode | ⟨name, hNode, hGranted⟩)
    · exact ⟨_, hNode, .stream id⟩
    · exact ⟨_, hNode, .granted hGranted⟩

/-- No category is left at any depth. -/
theorem not_mem_categories_of_expand {directory : Directory} {filter expanded : Filter}
    {name : String} (h : (expand directory filter).outcome = .ok (some expanded)) :
    ¬ name ∈ expanded.categories := by
  rw [mem_categories]
  intro hNode
  -- no leaf becomes a category
  obtain ⟨declared, -, hBecomes⟩ := (exists_leaf_iff h rfl).mp ⟨expanded, rfl, hNode⟩
  cases hBecomes

/-- What is known of a filter and what expansion leaves of it. -/
structure ExpandsTo (directory : Directory) (filter : Filter) (left : Option Filter) : Prop where
  /-- Nothing is left exactly if the filter vanishes. -/
  isNone_eq : left.isNone = vanishes directory filter
  /-- What is left admits the documents that the remainder of the filter admits. -/
  holds_eq : ∀ inStream matchesText, ∀ expanded ∈ left,
    holds (directory.reading inStream matchesText) expanded =
      remainderHolds directory (directory.reading inStream matchesText) filter
  /-- What is left names the streams of the filter and those granted for its categories. -/
  streamIds_iff : ∀ id, (∃ expanded ∈ left, id ∈ expanded.streamIds) ↔
    id ∈ filter.streamIds ∨ ∃ name ∈ filter.categories, id ∈ directory.granted name

section Children

variable {directory : Directory} {children : List Filter} {results : List (Option Filter)}

theorem isEmpty_reduceOption (h : List.Forall₂ (ExpandsTo directory) children results) :
    results.reduceOption.isEmpty = children.all (vanishes directory) := by
  induction h with
  | nil => rfl
  | @cons child left children results hChild hRest ih =>
    rw [List.all_cons, ← hChild.isNone_eq, ← ih]
    -- what is left of the first child is kept exactly if it does not vanish
    cases left <;> simp

theorem all_reduceOption (h : List.Forall₂ (ExpandsTo directory) children results)
    (inStream matchesText : String → Bool) :
    results.reduceOption.all (holds (directory.reading inStream matchesText)) =
      remainderHolds directory (directory.reading inStream matchesText) (.and children) := by
  rw [remainderHolds_and]
  induction h with
  | nil => rfl
  | @cons child left children results hChild hRest ih =>
    rw [List.all_cons, ← hChild.isNone_eq, ← ih]
    cases left with
    | none => simp
    | some expanded => simp [hChild.holds_eq inStream matchesText expanded rfl]

theorem any_reduceOption (h : List.Forall₂ (ExpandsTo directory) children results)
    (inStream matchesText : String → Bool) :
    results.reduceOption.any (holds (directory.reading inStream matchesText)) =
      remainderHolds directory (directory.reading inStream matchesText) (.or children) := by
  rw [remainderHolds_or]
  induction h with
  | nil => rfl
  | @cons child left children results hChild hRest ih =>
    rw [List.any_cons, ← hChild.isNone_eq, ← ih]
    cases left with
    | none => simp
    | some expanded => simp [hChild.holds_eq inStream matchesText expanded rfl]

end Children

theorem isNone_gather (node : List Filter → Filter) (kept : List Filter) :
    (gather node kept).isNone = kept.isEmpty := by
  unfold gather
  split <;> simp_all

theorem expandsTo_category {directory : Directory} {name : String} {streams : NameSet}
    (h : (directory.readableStreams (.singleton name)).outcome = .ok streams) :
    ExpandsTo directory (.category name) (gather .or (streams.toList.map .stream)) := by
  have hMem (id : String) : id ∈ streams.toList ↔ id ∈ directory.granted name :=
    Directory.mem_readableStreams h id
  constructor
  -- the streams come sorted and without repetitions, so only their members can be compared
  · have hEmpty : streams.toList = [] ↔ directory.granted name = [] := by
      simp only [List.eq_nil_iff_forall_not_mem, hMem]
    rw [isNone_gather, vanishes, Bool.eq_iff_iff]
    simp [hEmpty]
  · intro inStream matchesText expanded hExpanded
    obtain ⟨-, rfl⟩ := mem_gather.mp hExpanded
    rw [holds_or, any_distinct, List.any_map, remainderHolds, Directory.reading, Bool.eq_iff_iff,
      List.any_eq_true, List.any_eq_true]
    simp only [hMem, Function.comp_apply, holds]
  · exact exists_streamId_iff (expand_category_eq_ok_iff.mpr ⟨streams, h, rfl⟩)

/-- What a successful expansion leaves of a filter. -/
theorem expandsTo_of_expand {directory : Directory} {filter : Filter} {left : Option Filter}
    (h : (expand directory filter).outcome = .ok left) : ExpandsTo directory filter left := by
  induction filter generalizing left with
  | and children ih =>
    obtain ⟨results, hResults, rfl⟩ := expand_and_eq_ok_iff.mp h
    have hChildren := forall₂_imp_of_mem ih hResults
    constructor
    · rw [isNone_gather, isEmpty_reduceOption hChildren, vanishes_and]
    -- children that have become equal are merged, which neither meaning nor names notice
    · intro inStream matchesText expanded hExpanded
      obtain ⟨-, rfl⟩ := mem_gather.mp hExpanded
      rw [holds_and, all_distinct, all_reduceOption hChildren]
    · exact exists_streamId_iff h
  | or children ih =>
    obtain ⟨results, hResults, rfl⟩ := expand_or_eq_ok_iff.mp h
    have hChildren := forall₂_imp_of_mem ih hResults
    constructor
    · rw [isNone_gather, isEmpty_reduceOption hChildren, vanishes_or]
    · intro inStream matchesText expanded hExpanded
      obtain ⟨-, rfl⟩ := mem_gather.mp hExpanded
      rw [holds_or, any_distinct, any_reduceOption hChildren]
    · exact exists_streamId_iff h
  | stream id =>
    obtain rfl := expand_stream_eq_ok_iff.mp h
    exact ⟨rfl, by simp [remainderHolds], by simp⟩
  | category name =>
    obtain ⟨streams, hStreams, rfl⟩ := expand_category_eq_ok_iff.mp h
    exact expandsTo_category hStreams
  | queryString query =>
    obtain rfl := expand_queryString_eq_ok_iff.mp h
    exact ⟨rfl, by simp [remainderHolds], by simp⟩

/-- A property of all that expansion leaves: it has to pass from what is left of children to the
node over it, and to hold of what becomes of the leaves. -/
theorem expanded_induction {directory : Directory} {motive : Filter → Prop}
    (hAnd : ∀ kept, kept ≠ [] → (∀ child ∈ kept, motive child) → motive (.and (distinct kept)))
    (hOr : ∀ kept, kept ≠ [] → (∀ child ∈ kept, motive child) → motive (.or (distinct kept)))
    {filter expanded : Filter}
    (hLeaf : ∀ declared ∈ filter.nodes, ∀ leaf, Becomes directory declared leaf → motive leaf)
    (h : (expand directory filter).outcome = .ok (some expanded)) : motive expanded := by
  have hBelow {parent child : Filter} {children : List Filter}
      (hParent : parent.children? = some children) (hChild : child ∈ children)
      (hLeaf : ∀ declared ∈ parent.nodes, ∀ leaf, Becomes directory declared leaf → motive leaf) :
      ∀ declared ∈ child.nodes, ∀ leaf, Becomes directory declared leaf → motive leaf :=
    fun declared hDeclared => hLeaf declared (mem_nodes_of_children? hParent hChild hDeclared)
  have hEachLeft {children : List Filter} {results : List (Option Filter)}
      (hEach : ∀ child ∈ children, ∀ {left}, (expand directory child).outcome = .ok (some left) →
        motive left)
      (hResults : List.Forall₂ (fun child left => (expand directory child).outcome = .ok left)
        children results) : ∀ left ∈ results.reduceOption, motive left := by
    intro left hLeft
    obtain ⟨child, hChild, hExpand⟩ :=
      exists_mem_of_forall₂ hResults (List.reduceOption_mem_iff.mp hLeft)
    exact hEach child hChild hExpand
  induction filter generalizing expanded with
  | and children ih =>
    obtain ⟨results, hResults, hLeft⟩ := expand_and_eq_ok_iff.mp h
    obtain ⟨hNonempty, rfl⟩ := mem_gather.mp hLeft.symm
    exact hAnd _ hNonempty
      (hEachLeft (fun child hChild => ih child hChild (hBelow rfl hChild hLeaf)) hResults)
  | or children ih =>
    obtain ⟨results, hResults, hLeft⟩ := expand_or_eq_ok_iff.mp h
    obtain ⟨hNonempty, rfl⟩ := mem_gather.mp hLeft.symm
    exact hOr _ hNonempty
      (hEachLeft (fun child hChild => ih child hChild (hBelow rfl hChild hLeaf)) hResults)
  | stream id =>
    obtain rfl := Option.some.inj (expand_stream_eq_ok_iff.mp h)
    exact hLeaf _ (mem_nodes_self _) _ (.stream id)
  | category name =>
    obtain ⟨streams, hStreams, hLeft⟩ := expand_category_eq_ok_iff.mp h
    obtain ⟨hNonempty, rfl⟩ := mem_gather.mp hLeft.symm
    refine hOr _ hNonempty fun child hChild => ?_
    obtain ⟨id, hId, rfl⟩ := List.mem_map.mp hChild
    have hGranted := (Directory.mem_readableStreams hStreams id).mp hId
    exact hLeaf _ (mem_nodes_self _) _ (.granted hGranted)
  | queryString query =>
    obtain rfl := Option.some.inj (expand_queryString_eq_ok_iff.mp h)
    exact hLeaf _ (mem_nodes_self _) _ (.queryString query)

/-- Expansion fails only where the directory does. -/
theorem expand_succeeds {directory : Directory} (h : directory.NeverFails) (filter : Filter) :
    ∃ left, (expand directory filter).outcome = .ok left := by
  induction filter with
  | and children ih =>
    obtain ⟨results, hResults⟩ := exists_forall₂ ih
    exact ⟨_, expand_and_eq_ok_iff.mpr ⟨results, hResults, rfl⟩⟩
  | or children ih =>
    obtain ⟨results, hResults⟩ := exists_forall₂ ih
    exact ⟨_, expand_or_eq_ok_iff.mpr ⟨results, hResults, rfl⟩⟩
  | stream id => exact ⟨some (.stream id), rfl⟩
  | category name =>
    obtain ⟨streams, hStreams⟩ := Directory.readableStreams_succeeds h (.singleton name)
    exact ⟨_, expand_category_eq_ok_iff.mpr ⟨streams, hStreams, rfl⟩⟩
  | queryString query => exact ⟨some (.queryString query), rfl⟩

/-! ### Declared and remaining meaning -/

/-- Every conjunction keeps all its children or loses all of them. -/
def LosesNoConjunct (directory : Directory) (filter : Filter) : Prop :=
  ∀ children, .and children ∈ filter.nodes →
    (∀ child ∈ children, vanishes directory child = false) ∨
      ∀ child ∈ children, vanishes directory child = true

theorem LosesNoConjunct.child {directory : Directory} {parent child : Filter}
    {children : List Filter} (h : LosesNoConjunct directory parent)
    (hParent : parent.children? = some children) (hChild : child ∈ children) :
    LosesNoConjunct directory child :=
  fun grandchildren hNode => h grandchildren (mem_nodes_of_children? hParent hChild hNode)

section Meaning

variable {directory : Directory} {inStream matchesText : String → Bool} {filter : Filter}

/-- What is left of a filter asks for no less than the filter does, unless a conjunct was lost. -/
theorem holds_of_remainderHolds (h : LosesNoConjunct directory filter)
    (hLeft : vanishes directory filter = false)
    (hHolds : remainderHolds directory (directory.reading inStream matchesText) filter = true) :
    holds (directory.reading inStream matchesText) filter = true := by
  induction filter with
  | and children ih =>
    rw [remainderHolds_and, List.all_eq_true] at hHolds
    rw [holds_and, List.all_eq_true]
    intro child hChild
    -- not all children vanish, so by hypothesis none does
    have hKept : vanishes directory child = false := by
      rcases h children (mem_nodes_self _) with hNone | hAll
      · exact hNone child hChild
      · have hVanishes : vanishes directory (.and children) = true := by
          rw [vanishes_and, List.all_eq_true]
          exact hAll
        rw [hVanishes] at hLeft
        contradiction
    have hRemainder := hHolds child hChild
    rw [hKept, Bool.false_or] at hRemainder
    exact ih child hChild (h.child rfl hChild) hKept hRemainder
  | or children ih =>
    rw [remainderHolds_or, List.any_eq_true] at hHolds
    obtain ⟨child, hChild, hBoth⟩ := hHolds
    rw [Bool.and_eq_true, Bool.not_eq_true'] at hBoth
    rw [holds_or, List.any_eq_true]
    exact ⟨child, hChild, ih child hChild (h.child rfl hChild) hBoth.1 hBoth.2⟩
  | stream id => simpa [remainderHolds, holds] using hHolds
  | category name => simpa [remainderHolds, holds] using hHolds
  | queryString query => simpa [remainderHolds, holds] using hHolds

/-- What a filter admits is admitted by what is left of it, of which there is something. -/
theorem remainderHolds_of_holds (h : filter.WellFormed)
    (hHolds : holds (directory.reading inStream matchesText) filter = true) :
    vanishes directory filter = false ∧
      remainderHolds directory (directory.reading inStream matchesText) filter = true := by
  induction filter with
  | and children ih =>
    cases h with
    | and hNonempty hNodup hEach =>
      rw [holds_and, List.all_eq_true] at hHolds
      have hChildren := fun child hChild =>
        ih child hChild (hEach child hChild) (hHolds child hChild)
      obtain ⟨first, hFirst⟩ := List.exists_mem_of_ne_nil children hNonempty
      constructor
      -- without a first child the node would hold and vanish at the same time
      · rw [vanishes_and, List.all_eq_false]
        exact ⟨first, hFirst, by simp [(hChildren first hFirst).1]⟩
      · rw [remainderHolds_and, List.all_eq_true]
        intro child hChild
        rw [(hChildren child hChild).2, Bool.or_true]
  | or children ih =>
    cases h with
    | or hNonempty hNodup hEach =>
      rw [holds_or, List.any_eq_true] at hHolds
      obtain ⟨child, hChild, hHolds⟩ := hHolds
      obtain ⟨hKept, hRemainder⟩ := ih child hChild (hEach child hChild) hHolds
      constructor
      · rw [vanishes_or, List.all_eq_false]
        exact ⟨child, hChild, by simp [hKept]⟩
      · rw [remainderHolds_or, List.any_eq_true]
        exact ⟨child, hChild, by rw [hKept, hRemainder]; rfl⟩
  | stream id => exact ⟨rfl, hHolds⟩
  | category name =>
    refine ⟨?_, hHolds⟩
    obtain ⟨stream, hStream, -⟩ := List.any_eq_true.mp hHolds
    rw [vanishes, List.isEmpty_eq_false_iff]
    exact List.ne_nil_of_mem hStream
  | queryString query => exact ⟨rfl, hHolds⟩

end Meaning

/-- Expansion succeeds where the directory does, and unless a conjunction loses a child to it,
what is left admits the documents that the filter admits; nothing is left only of a filter that
admits none. -/
theorem expand_exact {directory : Directory} {filter : Filter} (hDirectory : directory.NeverFails)
    (hFilter : filter.WellFormed)
    (hConjuncts : ∀ children, .and children ∈ filter.nodes → ∀ child ∈ children,
      (expand directory child).outcome ≠ .ok none) :
    ∃ left, (expand directory filter).outcome = .ok left ∧ ∀ inStream matchesText,
      (∀ expanded, left = some expanded →
        holds (directory.reading inStream matchesText) expanded =
          holds (directory.reading inStream matchesText) filter) ∧
      (left = none → holds (directory.reading inStream matchesText) filter = false) := by
  obtain ⟨left, hLeft⟩ := expand_succeeds hDirectory filter
  have hExpands := expandsTo_of_expand hLeft
  -- no child expands to nothing, so no child vanishes
  have hKept : LosesNoConjunct directory filter := by
    intro children hNode
    refine Or.inl fun child hChild => ?_
    obtain ⟨childLeft, hChildLeft⟩ := expand_succeeds hDirectory child
    rw [← (expandsTo_of_expand hChildLeft).isNone_eq]
    cases childLeft with
    | none => exact absurd hChildLeft (hConjuncts children hNode child hChild)
    | some expanded => rfl
  refine ⟨left, hLeft, fun inStream matchesText => ⟨?_, ?_⟩⟩
  · rintro expanded rfl
    rw [hExpands.holds_eq inStream matchesText expanded rfl, Bool.eq_iff_iff]
    constructor
    · exact holds_of_remainderHolds hKept hExpands.isNone_eq.symm
    · exact fun hHolds => (remainderHolds_of_holds hFilter hHolds).2
  · rintro rfl
    by_contra hHolds
    have hSome := (remainderHolds_of_holds hFilter (Bool.of_not_eq_false hHolds)).1
    rw [← hExpands.isNone_eq] at hSome
    contradiction

/-- A category of which one stream may be read, beside one of which none may be. -/
theorem expand_exact_of_one_readable :
    let catalog : Catalog :=
      { categories := .ofList [("web", ["front", "back"])], allowAll := false
        allowed := .singleton "front" }
    let filter : Filter := .and [.stream "all", .or [.category "web", .category "mail"]]
    ∃ left, (expand catalog.directory filter).outcome = .ok left ∧ ∀ inStream matchesText,
      (∀ expanded, left = some expanded →
        holds (catalog.directory.reading inStream matchesText) expanded =
          holds (catalog.directory.reading inStream matchesText) filter) ∧
      (left = none → holds (catalog.directory.reading inStream matchesText) filter = false) := by
  intro catalog filter
  refine expand_exact catalog.directory_neverFails ?_ ?_
  · refine .and (by simp) (by simp) fun child hChild => ?_
    rcases List.mem_pair.mp hChild with rfl | rfl
    · exact .stream _
    · refine .or (by simp) (by simp) fun leaf hLeaf => ?_
      rcases List.mem_pair.mp hLeaf with rfl | rfl <;> exact .category _
  · intro children hNode child hChild hGone
    have hVanishes := (expandsTo_of_expand hGone).isNone_eq
    obtain rfl : children = [.stream "all", .or [.category "web", .category "mail"]] := by
      simpa [filter, nodes, nodesOfAll] using hNode
    rcases List.mem_pair.mp hChild with rfl | rfl
    · contradiction
    · revert hVanishes
      decide

end Filter

end LogSearch
