import LogSearch.Proofs.Restriction

/-!
# Filters built from expressions

A program that makes a filter writes an expression over the constructors: leaves, the
conjunction and disjunction of a list, the conjunction of two, and any of some streams.
Its parts may repeat each other in any way, and what it builds may be smaller than what
was written, since equal siblings are merged at every node; they can be equal only after
they have been merged themselves.

What an expression says is defined on the expression alone: the documents it holds of,
the leaves written in it and the lists it must not leave empty.  Building follows the
expression from the leaves up, so that all that is to be known of what is built comes
from one induction (`Expression.built_induction`).
-/

namespace LogSearch

namespace Filter

/-! ### Siblings -/

/-- The children that are left of siblings stand in the order of their first occurrences: they are
the same filters, and of two children the one that comes first among the siblings stands first. -/
structure KeepsFirst (siblings children : List Filter) : Prop where
  mem_iff (filter : Filter) : filter ∈ children ↔ filter ∈ siblings
  order : children.Pairwise fun earlier later => siblings.idxOf earlier < siblings.idxOf later

theorem keepsFirst_distinct (siblings : List Filter) : KeepsFirst siblings (distinct siblings) := by
  refine ⟨fun _ => mem_distinct, ?_⟩
  induction siblings with
  | nil => exact .nil
  | cons first rest ih =>
    -- among the siblings all others come one place later than among the rest
    have hPlace (other : Filter) (hOther : other ≠ first) :
        (first :: rest).idxOf other = rest.idxOf other + 1 :=
      List.idxOf_cons_ne rest (Ne.symm hOther)
    rw [distinct, List.pairwise_cons]
    constructor
    · intro other hOther
      have hNe : other ≠ first := by simpa using (List.mem_filter.mp hOther).2
      rw [List.idxOf_cons_self, hPlace other hNe]
      exact Nat.succ_pos _
    · refine (ih.filter _).imp_of_mem fun {earlier later} hEarlier hLater hBefore => ?_
      have hFirst : earlier ≠ first := by simpa using (List.mem_filter.mp hEarlier).2
      have hSecond : later ≠ first := by simpa using (List.mem_filter.mp hLater).2
      rw [hPlace earlier hFirst, hPlace later hSecond]
      exact Nat.succ_lt_succ hBefore

/-! ### Expressions -/

/-- A filter as it is written down by its constructors. -/
inductive Expression where
  /-- A leaf that asks for a stream. -/
  | stream (id : String)
  /-- A leaf that asks for the streams of a category. -/
  | category (name : String)
  /-- A leaf that asks for a match of a query text. -/
  | queryString (query : String)
  /-- The conjunction of a list. -/
  | and (parts : List Expression)
  /-- The disjunction of a list. -/
  | or (parts : List Expression)
  /-- The conjunction of two. -/
  | both (left right : Expression)
  /-- Any of some streams. -/
  | anyStreamOf (ids : List String)

namespace Expression

/-- A property of expressions that passes from all parts to the whole holds of all expressions. -/
@[induction_eliminator]
theorem induction {motive : Expression → Prop} (stream : ∀ id, motive (.stream id))
    (category : ∀ name, motive (.category name))
    (queryString : ∀ query, motive (.queryString query))
    (and : ∀ parts, (∀ part ∈ parts, motive part) → motive (.and parts))
    (or : ∀ parts, (∀ part ∈ parts, motive part) → motive (.or parts))
    (both : ∀ left right, motive left → motive right → motive (.both left right))
    (anyStreamOf : ∀ ids, motive (.anyStreamOf ids)) (expression : Expression) :
    motive expression :=
  @Expression.rec motive (fun parts => ∀ part ∈ parts, motive part)
    stream category queryString and or both anyStreamOf (by simp)
    (fun _ _ hFirst hRest => List.forall_mem_cons.mpr ⟨hFirst, hRest⟩) expression

mutual

/-- Build the filter, from the leaves up. -/
def build : Expression → Option Filter
  | .stream id => some (.stream id)
  | .category name => some (.category name)
  | .queryString query => some (.queryString query)
  | .and parts => (buildAll parts).bind fun filters => (Filter.and? filters).toOption
  | .or parts => (buildAll parts).bind fun filters => (Filter.or? filters).toOption
  | .both left right =>
    (build left).bind fun first => (build right).map fun second => Filter.both first second
  | .anyStreamOf ids => Filter.anyStreamOf ids

/-- Build the filters of a list, all of them or none. -/
def buildAll : List Expression → Option (List Filter)
  | [] => some []
  | first :: rest =>
    (build first).bind fun filter => (buildAll rest).map fun filters => filter :: filters

end

mutual

/-- Whether an expression holds of the document that its leaves are read for. -/
def holds (reading : Reading) : Expression → Bool
  | .stream id => reading.inStream id
  | .category name => reading.inCategory name
  | .queryString query => reading.matchesText query
  | .and parts => (verdicts reading parts).all id
  | .or parts => (verdicts reading parts).any id
  | .both left right => holds reading left && holds reading right
  | .anyStreamOf ids => ids.any reading.inStream

/-- Which expressions of a list hold. -/
def verdicts (reading : Reading) : List Expression → List Bool
  | [] => []
  | first :: rest => holds reading first :: verdicts reading rest

end

mutual

/-- The leaves written in an expression, from the left. -/
def leaves : Expression → List Filter
  | .stream id => [.stream id]
  | .category name => [.category name]
  | .queryString query => [.queryString query]
  | .and parts | .or parts => leavesOfAll parts
  | .both left right => leaves left ++ leaves right
  | .anyStreamOf ids => ids.map .stream

/-- The leaves written in a list of expressions. -/
def leavesOfAll : List Expression → List Filter
  | [] => []
  | first :: rest => leaves first ++ leavesOfAll rest

end

/-- The streams written in an expression. -/
def streamIds (expression : Expression) : NameSet :=
  NameSet.ofList (expression.leaves.filterMap streamId?)

/-- The categories written in an expression. -/
def categories (expression : Expression) : NameSet :=
  NameSet.ofList (expression.leaves.filterMap categoryName?)

/-- No list in the expression is empty. -/
inductive Populated : Expression → Prop
  | stream (id : String) : Populated (.stream id)
  | category (name : String) : Populated (.category name)
  | queryString (query : String) : Populated (.queryString query)
  | and {parts : List Expression} (nonempty : parts ≠ [])
      (each : ∀ part ∈ parts, Populated part) : Populated (.and parts)
  | or {parts : List Expression} (nonempty : parts ≠ [])
      (each : ∀ part ∈ parts, Populated part) : Populated (.or parts)
  | both {left right : Expression} (hLeft : Populated left) (hRight : Populated right) :
      Populated (.both left right)
  | anyStreamOf {ids : List String} (nonempty : ids ≠ []) : Populated (.anyStreamOf ids)

/-- The filter stands for the expression node by node, and below every node the filters that stand
for the parts are kept in the order of their first occurrences.  A conjunction of two that are the
same and a choice among a single stream have no node of their own. -/
inductive Shapes : Expression → Filter → Prop
  | stream (id : String) : Shapes (.stream id) (.stream id)
  | category (name : String) : Shapes (.category name) (.category name)
  | queryString (query : String) : Shapes (.queryString query) (.queryString query)
  | and {parts : List Expression} {siblings children : List Filter}
      (each : List.Forall₂ Shapes parts siblings) (kept : KeepsFirst siblings children) :
      Shapes (.and parts) (.and children)
  | or {parts : List Expression} {siblings children : List Filter}
      (each : List.Forall₂ Shapes parts siblings) (kept : KeepsFirst siblings children) :
      Shapes (.or parts) (.or children)
  | twice {left right : Expression} {filter : Filter} (hLeft : Shapes left filter)
      (hRight : Shapes right filter) : Shapes (.both left right) filter
  | both {left right : Expression} {first second : Filter} (hLeft : Shapes left first)
      (hRight : Shapes right second) (hNe : first ≠ second) :
      Shapes (.both left right) (.and [first, second])
  | onlyStream (id : String) : Shapes (.anyStreamOf [id]) (.stream id)
  | anyStreamOf {ids : List String} {children : List Filter} (hSeveral : 1 < ids.length)
      (kept : KeepsFirst (ids.map .stream) children) : Shapes (.anyStreamOf ids) (.or children)

/-! ### Lists of expressions -/

theorem buildAll_eq_some_iff {parts : List Expression} {filters : List Filter} :
    buildAll parts = some filters ↔
      List.Forall₂ (fun part filter => part.build = some filter) parts filters := by
  induction parts generalizing filters with
  | nil => simp [buildAll, eq_comm]
  | cons first rest ih =>
    simp only [buildAll, Option.bind_eq_some_iff, Option.map_eq_some_iff, ih,
      List.forall₂_cons_left_iff]
    constructor
    · rintro ⟨filter, hFirst, others, hRest, rfl⟩
      exact ⟨filter, others, hFirst, hRest, rfl⟩
    · rintro ⟨filter, others, hFirst, hRest, rfl⟩
      exact ⟨filter, hFirst, others, hRest, rfl⟩

theorem verdicts_of_forall₂ {reading : Reading} {parts : List Expression} {siblings : List Filter}
    (h : List.Forall₂ (fun part sibling => sibling.holds reading = part.holds reading)
      parts siblings) : verdicts reading parts = siblings.map (Filter.holds reading) := by
  induction h with
  | nil => rfl
  | cons hFirst hRest ih => rw [verdicts, ih, List.map_cons, hFirst]

theorem mem_leavesOfAll_of_forall₂ {leaf : Filter} {parts : List Expression}
    {siblings : List Filter}
    (h : List.Forall₂ (fun part sibling => leaf ∈ sibling.nodes ↔ leaf ∈ part.leaves)
      parts siblings) : leaf ∈ leavesOfAll parts ↔ ∃ sibling ∈ siblings, leaf ∈ sibling.nodes := by
  induction h with
  | nil => simp [leavesOfAll]
  | cons hFirst hRest ih => simp [leavesOfAll, ih, hFirst]

/-! ### Building -/

theorem toOption_eq_some_iff {outcome : Attempt Filter} {filter : Filter} :
    outcome.toOption = some filter ↔ outcome = .ok filter := by
  cases outcome <;> simp [Except.toOption]

theorem build_and_eq_some_iff {parts : List Expression} {filter : Filter} :
    (Expression.and parts).build = some filter ↔
      ∃ siblings, List.Forall₂ (fun part sibling => part.build = some sibling) parts siblings ∧
        siblings ≠ [] ∧ filter = .and (distinct siblings) := by
  simp only [build, Option.bind_eq_some_iff, buildAll_eq_some_iff, toOption_eq_some_iff,
    and?_eq_ok_iff]

theorem build_or_eq_some_iff {parts : List Expression} {filter : Filter} :
    (Expression.or parts).build = some filter ↔
      ∃ siblings, List.Forall₂ (fun part sibling => part.build = some sibling) parts siblings ∧
        siblings ≠ [] ∧ filter = .or (distinct siblings) := by
  simp only [build, Option.bind_eq_some_iff, buildAll_eq_some_iff, toOption_eq_some_iff,
    or?_eq_ok_iff]

/-- A relation between expressions and filters that every constructor passes on holds between an
expression and what it builds. -/
theorem built_induction {P : Expression → Filter → Prop}
    (stream : ∀ id, P (.stream id) (.stream id))
    (category : ∀ name, P (.category name) (.category name))
    (queryString : ∀ query, P (.queryString query) (.queryString query))
    (and : ∀ parts siblings, List.Forall₂ P parts siblings → siblings ≠ [] →
      P (.and parts) (.and (distinct siblings)))
    (or : ∀ parts siblings, List.Forall₂ P parts siblings → siblings ≠ [] →
      P (.or parts) (.or (distinct siblings)))
    (both : ∀ left right first second, P left first → P right second →
      P (.both left right) (Filter.both first second))
    (anyStreamOf : ∀ ids filter, Filter.anyStreamOf ids = some filter → P (.anyStreamOf ids) filter)
    {expression : Expression} {filter : Filter} (h : expression.build = some filter) :
    P expression filter := by
  induction expression generalizing filter with
  | stream id =>
    rw [← Option.some.inj h]
    exact stream id
  | category name =>
    rw [← Option.some.inj h]
    exact category name
  | queryString query =>
    rw [← Option.some.inj h]
    exact queryString query
  | and parts ih =>
    obtain ⟨siblings, hEach, hNonempty, rfl⟩ := build_and_eq_some_iff.mp h
    exact and parts siblings (forall₂_imp_of_mem (fun part hPart => ih part hPart) hEach) hNonempty
  | or parts ih =>
    obtain ⟨siblings, hEach, hNonempty, rfl⟩ := build_or_eq_some_iff.mp h
    exact or parts siblings (forall₂_imp_of_mem (fun part hPart => ih part hPart) hEach) hNonempty
  | both left right ihLeft ihRight =>
    rw [build] at h
    obtain ⟨first, hFirst, hBoth⟩ := Option.bind_eq_some_iff.mp h
    obtain ⟨second, hSecond, rfl⟩ := Option.map_eq_some_iff.mp hBoth
    exact both left right first second (ihLeft hFirst) (ihRight hSecond)
  | anyStreamOf ids => exact anyStreamOf ids filter h

theorem exists_siblings {parts : List Expression} (hNonempty : parts ≠ [])
    (hEach : ∀ part ∈ parts, ∃ filter, part.build = some filter) :
    ∃ siblings, List.Forall₂ (fun part sibling => part.build = some sibling) parts siblings ∧
      siblings ≠ [] := by
  obtain ⟨siblings, hSiblings⟩ := exists_forall₂ hEach
  refine ⟨siblings, hSiblings, ?_⟩
  rintro rfl
  exact hNonempty (List.forall₂_nil_right_iff.mp hSiblings)

/-- Nothing but an empty list keeps an expression from being built. -/
theorem exists_build_of_populated {expression : Expression} (h : expression.Populated) :
    ∃ filter, expression.build = some filter := by
  induction h with
  | stream id => exact ⟨_, rfl⟩
  | category name => exact ⟨_, rfl⟩
  | queryString query => exact ⟨_, rfl⟩
  | and nonempty each ih =>
    obtain ⟨siblings, hEach, hNonempty⟩ := exists_siblings nonempty ih
    exact ⟨_, build_and_eq_some_iff.mpr ⟨siblings, hEach, hNonempty, rfl⟩⟩
  | or nonempty each ih =>
    obtain ⟨siblings, hEach, hNonempty⟩ := exists_siblings nonempty ih
    exact ⟨_, build_or_eq_some_iff.mpr ⟨siblings, hEach, hNonempty, rfl⟩⟩
  | both hLeft hRight ihLeft ihRight =>
    obtain ⟨first, hFirst⟩ := ihLeft
    obtain ⟨second, hSecond⟩ := ihRight
    exact ⟨Filter.both first second, by rw [build, hFirst, hSecond]; rfl⟩
  | anyStreamOf nonempty =>
    rw [build]
    exact Option.ne_none_iff_exists'.mp (mt anyStreamOf_eq_none_iff.mp nonempty)

/-! ### What is built -/

section Built

variable {expression : Expression} {filter : Filter} (h : expression.build = some filter)
include h

theorem wellFormed_of_build : filter.WellFormed := by
  refine built_induction (P := fun _ => WellFormed) .stream .category .queryString
    (fun parts siblings hEach hNonempty => ?and) (fun parts siblings hEach hNonempty => ?or)
    (fun _ _ _ _ => wellFormed_both) (fun _ _ => wellFormed_of_anyStreamOf) h
  case and =>
    refine .and_distinct hNonempty fun child hChild => ?_
    obtain ⟨part, -, hPart⟩ := exists_mem_of_forall₂ hEach hChild
    exact hPart
  case or =>
    refine .or_distinct hNonempty fun child hChild => ?_
    obtain ⟨part, -, hPart⟩ := exists_mem_of_forall₂ hEach hChild
    exact hPart

theorem shapes_of_build : expression.Shapes filter := by
  refine built_induction .stream .category .queryString
    (fun parts siblings hEach _ => .and hEach (keepsFirst_distinct siblings))
    (fun parts siblings hEach _ => .or hEach (keepsFirst_distinct siblings))
    (fun left right first second hLeft hRight => ?both) (fun ids filter hAny => ?anyStreamOf) h
  case both =>
    unfold Filter.both
    split
    · next hSame =>
      subst hSame
      exact .twice hLeft hRight
    · next hNe => exact .both hLeft hRight hNe
  case anyStreamOf =>
    rcases eq_of_anyStreamOf hAny with ⟨id, rfl, rfl⟩ | ⟨hSeveral, rfl⟩
    · exact .onlyStream id
    · exact .anyStreamOf hSeveral (keepsFirst_distinct _)

/-- A filter admits what its expression holds of. -/
theorem holds_of_build (reading : Reading) : filter.holds reading = expression.holds reading := by
  refine built_induction (P := fun expression filter =>
    filter.holds reading = expression.holds reading) (fun _ => rfl) (fun _ => rfl) (fun _ => rfl)
    (fun parts siblings hEach _ => ?and) (fun parts siblings hEach _ => ?or)
    (fun left right first second hLeft hRight => ?both) (fun ids filter hAny => ?anyStreamOf) h
  case and =>
    rw [holds_and, all_distinct, holds, verdicts_of_forall₂ hEach, List.all_map]
    rfl
  case or =>
    rw [holds_or, any_distinct, holds, verdicts_of_forall₂ hEach, List.any_map]
    rfl
  case both => rw [holds_both, hLeft, hRight, holds]
  case anyStreamOf => rw [Bool.eq_iff_iff, holds_of_anyStreamOf hAny, holds, List.any_eq_true]

/-- Merging drops no leaf, and no leaf comes from elsewhere. -/
theorem leaf_mem_nodes_iff_of_build {leaf : Filter} (hLeaf : leaf.children? = none) :
    leaf ∈ filter.nodes ↔ leaf ∈ expression.leaves := by
  refine built_induction (P := fun expression filter =>
    leaf ∈ filter.nodes ↔ leaf ∈ expression.leaves) (fun _ => Iff.rfl) (fun _ => Iff.rfl)
    (fun _ => Iff.rfl) (fun parts siblings hEach _ => ?and) (fun parts siblings hEach _ => ?or)
    (fun left right first second hLeft hRight => ?both) (fun ids filter hAny => ?anyStreamOf) h
  case and =>
    rw [leaf_mem_nodes_iff rfl hLeaf, leaves, mem_leavesOfAll_of_forall₂ hEach]
    simp only [mem_distinct]
  case or =>
    rw [leaf_mem_nodes_iff rfl hLeaf, leaves, mem_leavesOfAll_of_forall₂ hEach]
    simp only [mem_distinct]
  case both => rw [leaf_mem_nodes_both hLeaf, leaves, List.mem_append, hLeft, hRight]
  case anyStreamOf => rw [leaf_mem_nodes_of_anyStreamOf hAny hLeaf, leaves]

/-- What only leaves have is found in a filter exactly as it was written. -/
theorem names_of_build {name? : Filter → Option String}
    (hName : ∀ {node name}, name? node = some name → node.children? = none) :
    NameSet.ofList (filter.nodes.filterMap name?) =
      NameSet.ofList (expression.leaves.filterMap name?) := by
  refine NameSet.ofList_eq_ofList_iff.mpr fun name => ?_
  simp only [List.mem_filterMap]
  refine exists_congr fun leaf => and_congr_left fun hLeaf => ?_
  exact leaf_mem_nodes_iff_of_build h (hName hLeaf)

theorem streamIds_of_build : filter.streamIds = expression.streamIds := by
  refine names_of_build h fun {node name} hName => ?_
  cases node with
  | stream id => rfl
  | _ => contradiction

theorem categories_of_build : filter.categories = expression.categories := by
  refine names_of_build h fun {node name} hName => ?_
  cases node with
  | category name => rfl
  | _ => contradiction

end Built

/-- An expression in which no list is empty builds a filter.  The filter admits the documents that
the expression holds of, is well formed, keeps the order in which the parts come first, and names
the streams and categories that the expression names. -/
theorem build_exact {expression : Expression} (h : expression.Populated) :
    ∃ filter, expression.build = some filter ∧
      (∀ reading, filter.holds reading = expression.holds reading) ∧
      filter.WellFormed ∧ expression.Shapes filter ∧
      filter.streamIds = expression.streamIds ∧ filter.categories = expression.categories := by
  obtain ⟨filter, hBuild⟩ := exists_build_of_populated h
  exact ⟨filter, hBuild, holds_of_build hBuild, wellFormed_of_build hBuild, shapes_of_build hBuild,
    streamIds_of_build hBuild, categories_of_build hBuild⟩

/-- Two disjunctions become the same only by merging their own parts, and are then merged. -/
theorem build_exact_of_repetitions :
    let expression : Expression :=
      .and [.or [.stream "b", .stream "b"], .both (.category "web") (.category "web"),
        .anyStreamOf ["b", "b"], .queryString "error"]
    let filter : Filter := .and [.or [.stream "b"], .category "web", .queryString "error"]
    expression.Populated ∧ expression.build = some filter ∧
      (∀ reading, filter.holds reading = expression.holds reading) ∧
      filter.WellFormed ∧ expression.Shapes filter ∧
      filter.streamIds = .singleton "b" ∧ filter.categories = .singleton "web" := by
  intro expression filter
  have hPopulated : expression.Populated := by
    refine .and (by simp) fun part hPart => ?_
    simp only [List.mem_cons, List.not_mem_nil, or_false] at hPart
    rcases hPart with rfl | rfl | rfl | rfl
    · refine .or (by simp) fun leaf hLeaf => ?_
      rcases List.mem_pair.mp hLeaf with rfl | rfl <;> exact .stream _
    · exact .both (.category _) (.category _)
    · exact .anyStreamOf (by simp)
    · exact .queryString _
  have hBuild : expression.build = some filter := by decide
  obtain ⟨built, hBuilt, hRest⟩ := build_exact hPopulated
  obtain rfl : filter = built := Option.some.inj (hBuild.symm.trans hBuilt)
  exact ⟨hPopulated, hBuild, hRest⟩

end Expression

end Filter

end LogSearch
