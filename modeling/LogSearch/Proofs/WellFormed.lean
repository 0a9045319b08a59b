import LogSearch.Filter.Wire
import LogSearch.Proofs.Expansion
import LogSearch.Proofs.Reading

/-!
# Where well-formed filters come from

Every way to get a filter gives a well-formed one: the constructors that check
and merge a list of children, the two that build inner nodes without doing so,
the expansion of categories, and reading.  Inner nodes come from the outside by
these alone, which `Filter.Constructed` collects.

Being well formed is one of several properties that reading gives a filter; how it
does is said once for all properties that pass on from children (`Filter.PassesOn`).
-/

namespace LogSearch

namespace Filter

/-! ### Constructors -/

theorem distinct_ne_nil {filters : List Filter} (h : filters ≠ []) : distinct filters ≠ [] := by
  cases filters with
  | nil => exact absurd rfl h
  | cons first rest => exact List.cons_ne_nil _ _

theorem distinct_of_nodup {filters : List Filter} (h : filters.Nodup) :
    distinct filters = filters := by
  induction filters with
  | nil => rfl
  | cons first rest ih =>
    obtain ⟨hFirst, hRest⟩ := List.nodup_cons.mp h
    have hOthers : ∀ other ∈ rest, other ≠ first := by
      rintro other hOther rfl
      exact hFirst hOther
    rw [distinct, ih hRest, List.filter_eq_self.mpr (by simpa using hOthers)]

section Lists

variable {filters : List Filter} {filter : Filter}

theorem WellFormed.and_distinct (hNonempty : filters ≠ [])
    (hEach : ∀ child ∈ filters, child.WellFormed) : (Filter.and (distinct filters)).WellFormed :=
  .and (distinct_ne_nil hNonempty) (nodup_distinct filters)
    fun child hChild => hEach child (mem_distinct.mp hChild)

theorem WellFormed.or_distinct (hNonempty : filters ≠ [])
    (hEach : ∀ child ∈ filters, child.WellFormed) : (Filter.or (distinct filters)).WellFormed :=
  .or (distinct_ne_nil hNonempty) (nodup_distinct filters)
    fun child hChild => hEach child (mem_distinct.mp hChild)

theorem and?_eq_ok_iff :
    and? filters = .ok filter ↔ filters ≠ [] ∧ filter = .and (distinct filters) := by
  cases filters with
  | nil => simp [and?]
  | cons first rest => simp [and?, eq_comm (a := filter)]

theorem or?_eq_ok_iff :
    or? filters = .ok filter ↔ filters ≠ [] ∧ filter = .or (distinct filters) := by
  cases filters with
  | nil => simp [or?]
  | cons first rest => simp [or?, eq_comm (a := filter)]

theorem wellFormed_of_and? (hEach : ∀ child ∈ filters, child.WellFormed)
    (h : and? filters = .ok filter) : filter.WellFormed := by
  obtain ⟨hNonempty, rfl⟩ := and?_eq_ok_iff.mp h
  exact .and_distinct hNonempty hEach

theorem wellFormed_of_or? (hEach : ∀ child ∈ filters, child.WellFormed)
    (h : or? filters = .ok filter) : filter.WellFormed := by
  obtain ⟨hNonempty, rfl⟩ := or?_eq_ok_iff.mp h
  exact .or_distinct hNonempty hEach

end Lists

/-- Two filters are only put beside each other if they differ. -/
theorem wellFormed_both {left right : Filter} (hLeft : left.WellFormed)
    (hRight : right.WellFormed) : (both left right).WellFormed := by
  unfold both
  split
  · exact hLeft
  · next hNe =>
    have hNodup : [left, right].Nodup := by simp [hNe]
    refine .and (List.cons_ne_nil _ _) hNodup fun child hChild => ?_
    rcases List.mem_pair.mp hChild with rfl | rfl
    · exact hLeft
    · exact hRight

/-- A single stream is asked for by a leaf, several by a disjunction. -/
theorem eq_of_anyStreamOf {ids : List String} {filter : Filter}
    (h : anyStreamOf ids = some filter) :
    (∃ id, ids = [id] ∧ filter = .stream id) ∨
      (1 < ids.length ∧ filter = .or (distinct (ids.map .stream))) := by
  match ids, h with
  | [id], h => exact .inl ⟨id, rfl, (Option.some.inj h).symm⟩
  | first :: second :: rest, h => exact .inr ⟨by simp, (Option.some.inj h).symm⟩

theorem wellFormed_of_anyStreamOf {ids : List String} {filter : Filter}
    (h : anyStreamOf ids = some filter) : filter.WellFormed := by
  rcases eq_of_anyStreamOf h with ⟨id, -, rfl⟩ | ⟨hSeveral, rfl⟩
  · exact .stream id
  · have hNonempty : ids.map Filter.stream ≠ [] := by
      rw [ne_eq, List.map_eq_nil_iff]
      rintro rfl
      contradiction
    refine .or_distinct hNonempty fun child hChild => ?_
    obtain ⟨id, -, rfl⟩ := List.mem_map.mp hChild
    exact .stream id

/-! ### Expansion -/

/-- The filter that expansion returns is well formed, whatever the expanded filter was. -/
theorem wellFormed_of_expand {directory : Directory} {filter expanded : Filter}
    (h : (expand directory filter).outcome = .ok (some expanded)) : expanded.WellFormed := by
  refine expanded_induction (fun _ => WellFormed.and_distinct) (fun _ => WellFormed.or_distinct)
    (fun declared _ leaf hBecomes => ?_) h
  cases hBecomes with
  | stream id => exact .stream id
  | granted hGranted => exact .stream _
  | queryString query => exact .queryString query

/-! ### Reading -/

theorem listOfJson_eq_mapM (items : List Json) : listOfJson items = items.mapM ofJson := by
  induction items with
  | nil => rfl
  | cons first rest ih => rw [listOfJson, List.mapM_cons, ih]

/-- A property of the children that have been read. -/
def Parts.Each (P : Filter → Prop) (parts : Parts) : Prop :=
  ∀ children, parts.filters = some children → ∀ child ∈ children, P child

theorem requireText_eq_ok_iff {kind : FilterKind} {field text : String} {text? : Option String} :
    requireText kind field text? = .ok text ↔ text? = some text ∧ text ≠ "" := by
  unfold requireText
  cases text? with
  | none => simp
  | some found =>
    by_cases hEmpty : found = ""
    · simp [hEmpty]
    · have hKept : found = text → text ≠ "" := fun hSame => hSame ▸ hEmpty
      simpa [hEmpty] using hKept

/-- A leaf that is read has a text and nothing else. -/
theorem leaf_eq_ok_iff {children : List Filter} {kind : FilterKind} {field : String}
    {text? : Option String} {leaf : String → Filter} {filter : Filter} :
    (if !children.isEmpty then .error (.invalid (.leafWithChildren kind))
        else (requireText kind field text?).map leaf) = .ok filter ↔
      children = [] ∧ ∃ text, text? = some text ∧ text ≠ "" ∧ filter = leaf text := by
  cases children with
  | nil =>
    simp only [List.isEmpty_nil, Bool.not_true, Bool.false_eq_true, if_false, map_eq_ok,
      requireText_eq_ok_iff, and_assoc, true_and, eq_comm (a := filter)]
  | cons first rest => simp

/-- A property passes from the children that were read to the filter that is made of them. -/
def PassesOn (P : Filter → Prop) : Prop :=
  ∀ parts filter, parts.Each P → ofParts parts = .ok filter → P filter

/-- A property passes on to the filters that are read if inner nodes take it over from their
children and leaves with a text have it. -/
theorem passesOn_of_cases {P : Filter → Prop}
    (hAnd : ∀ filters, filters ≠ [] → (∀ child ∈ filters, P child) → P (.and (distinct filters)))
    (hOr : ∀ filters, filters ≠ [] → (∀ child ∈ filters, P child) → P (.or (distinct filters)))
    (hStream : ∀ id, id ≠ "" → P (.stream id)) (hCategory : ∀ name, name ≠ "" → P (.category name))
    (hQuery : ∀ query, query ≠ "" → P (.queryString query)) : PassesOn P := by
  intro parts filter hParts h
  have hEach : ∀ child ∈ parts.filters.getD [], P child := by
    cases hChildren : parts.filters with
    | none => simp
    | some children => exact hParts children hChildren
  unfold ofParts at h
  split at h
  · contradiction
  · next kind _ =>
    cases kind with
    | and =>
      obtain ⟨hNonempty, rfl⟩ := and?_eq_ok_iff.mp h
      exact hAnd _ hNonempty hEach
    | or =>
      obtain ⟨hNonempty, rfl⟩ := or?_eq_ok_iff.mp h
      exact hOr _ hNonempty hEach
    | stream =>
      obtain ⟨-, id, -, hText, rfl⟩ := leaf_eq_ok_iff.mp h
      exact hStream id hText
    | streamCategory =>
      obtain ⟨-, name, -, hText, rfl⟩ := leaf_eq_ok_iff.mp h
      exact hCategory name hText
    | queryString =>
      obtain ⟨-, query, -, hText, rfl⟩ := leaf_eq_ok_iff.mp h
      exact hQuery query hText

/-- Reading the parts of a filter keeps a property of its children. -/
theorem fields_keep_each {P : Filter → Prop} {children : Attempt (Option (List Filter))}
    (hChildren : ∀ filters, children = .ok (some filters) → ∀ child ∈ filters, P child) :
    ∀ field ∈ fields children, field.Keeps (Parts.Each P) := by
  simp only [fields, List.forall_mem_cons]
  refine ⟨Json.Field.keeps_of_set ?_, Json.Field.keeps_of_set ?_, Json.Field.keeps_of_set ?_,
    Json.Field.keeps_of_set ?_, Json.Field.keeps_of_set ?_, by simp⟩
  · exact fun parts value tag hParts hRead => hParts
  · rintro parts value found hParts hRead filters rfl
    exact hChildren filters hRead
  · exact fun parts value id hParts hRead => hParts
  · exact fun parts value category hParts hRead => hParts
  · exact fun parts value query hParts hRead => hParts

theorem PassesOn.of_asRecord {P : Filter → Prop} (hPasses : PassesOn P) {value : Json}
    {children : Attempt (Option (List Filter))} {filter : Filter}
    (hChildren : ∀ filters, children = .ok (some filters) → ∀ child ∈ filters, P child)
    (h : (value.asRecord (fields children) {} >>= ofParts) = .ok filter) : P filter := by
  obtain ⟨parts, hParts, hFilter⟩ := bind_eq_ok.mp h
  have hStart : Parts.Each P {} := by
    intro filters hFilters
    contradiction
  exact hPasses parts filter
    (Json.asRecord_keeps (fields_keep_each hChildren) hStart hParts) hFilter

theorem exists_of_childrenOf {value : Json} {filters : List Filter}
    (h : childrenOf value = .ok (some filters)) :
    ∃ items, value = .arr items ∧ listOfJson items = .ok filters := by
  cases value with
  | arr items =>
    rw [childrenOf] at h
    obtain ⟨found, hFound, hSome⟩ := map_eq_ok.mp h
    rw [Option.some.inj hSome] at hFound
    exact ⟨items, rfl, hFound⟩
  | null => simp [childrenOf] at h
  | bool value => simp [childrenOf, Json.fail] at h
  | int value => simp [childrenOf, Json.fail] at h
  | float value => simp [childrenOf, Json.fail] at h
  | str text => simp [childrenOf, Json.fail] at h
  | obj fields => simp [childrenOf, Json.fail] at h

/-- The children in an object are those in the value of one of its fields. -/
theorem exists_of_childrenOfFields {entries : List (String × Json)} {filters : List Filter}
    (h : childrenOfFields entries = .ok (some filters)) :
    ∃ entry ∈ entries, childrenOf entry.2 = .ok (some filters) := by
  induction entries with
  | nil => simp [childrenOfFields] at h
  | cons first rest ih =>
    rw [childrenOfFields] at h
    split at h
    · exact ⟨first, List.mem_cons_self, h⟩
    · obtain ⟨entry, hEntry, hChildren⟩ := ih h
      exact ⟨entry, List.mem_cons_of_mem _ hEntry, hChildren⟩

/-- The children in an array are those in one of its items. -/
theorem exists_of_childrenOfItems {items : List Json} {filters : List Filter}
    (h : childrenOfItems items = .ok (some filters)) :
    ∃ item ∈ items, childrenOf item = .ok (some filters) := by
  unfold childrenOfItems at h
  split at h
  · next first value rest =>
    exact ⟨value, List.mem_cons_of_mem _ List.mem_cons_self, h⟩
  · simp at h

/-- A property that passes on holds of a filter that is read, and of those of a list of children. -/
theorem PassesOn.of_read {P : Filter → Prop} (hPasses : PassesOn P) (value : Json) :
    (∀ filter, ofJson value = .ok filter → P filter) ∧
      ∀ filters, childrenOf value = .ok (some filters) → ∀ child ∈ filters, P child := by
  -- the children of a filter are not its parts but those of the value of one field, so the
  -- induction carries both statements: each needs the other one level further down
  induction value with
  | arr items ih =>
    constructor
    · intro filter h
      rw [ofJson] at h
      refine hPasses.of_asRecord (fun filters hFilters => ?_) h
      obtain ⟨item, hItem, hChildren⟩ := exists_of_childrenOfItems hFilters
      exact (ih item hItem).2 filters hChildren
    · intro filters h child hChild
      obtain ⟨others, hOthers, hRead⟩ := exists_of_childrenOf h
      rw [← Json.arr.inj hOthers, listOfJson_eq_mapM] at hRead
      obtain ⟨item, hItem, hFilter⟩ := exists_mem_of_forall₂ (mapM_eq_ok_iff.mp hRead) hChild
      exact (ih item hItem).1 child hFilter
  | obj entries ih =>
    constructor
    · intro filter h
      rw [ofJson] at h
      refine hPasses.of_asRecord (fun filters hFilters => ?_) h
      obtain ⟨entry, hEntry, hChildren⟩ := exists_of_childrenOfFields hFilters
      exact (ih entry hEntry).2 filters hChildren
    · intro filters h
      obtain ⟨items, hItems, -⟩ := exists_of_childrenOf h
      contradiction
  | null => exact ⟨by simp [ofJson, Json.fail], by simp [childrenOf]⟩
  | bool value => exact ⟨by simp [ofJson, Json.fail], by simp [childrenOf, Json.fail]⟩
  | int value => exact ⟨by simp [ofJson, Json.fail], by simp [childrenOf, Json.fail]⟩
  | float value => exact ⟨by simp [ofJson, Json.fail], by simp [childrenOf, Json.fail]⟩
  | str text => exact ⟨by simp [ofJson, Json.fail], by simp [childrenOf, Json.fail]⟩

theorem wellFormed_passesOn : PassesOn WellFormed :=
  passesOn_of_cases (fun _ => WellFormed.and_distinct) (fun _ => WellFormed.or_distinct)
    (fun id _ => .stream id) (fun name _ => .category name) (fun query _ => .queryString query)

theorem wellFormed_of_ofJson {value : Json} {filter : Filter} (h : ofJson value = .ok filter) :
    filter.WellFormed :=
  (wellFormed_passesOn.of_read value).1 filter h

/-! ### All of them -/

/-- The filters that can be made from outside. -/
inductive Constructed : Filter → Prop
  | stream (id : String) : Constructed (.stream id)
  | category (name : String) : Constructed (.category name)
  | queryString (query : String) : Constructed (.queryString query)
  | and {filters : List Filter} {filter : Filter} (hEach : ∀ child ∈ filters, Constructed child)
      (h : and? filters = .ok filter) : Constructed filter
  | or {filters : List Filter} {filter : Filter} (hEach : ∀ child ∈ filters, Constructed child)
      (h : or? filters = .ok filter) : Constructed filter
  | both {left right : Filter} (hLeft : Constructed left) (hRight : Constructed right) :
      Constructed (Filter.both left right)
  | anyStreamOf {ids : List String} {filter : Filter} (h : anyStreamOf ids = some filter) :
      Constructed filter
  | read {value : Json} {filter : Filter} (h : ofJson value = .ok filter) : Constructed filter

theorem Constructed.wellFormed {filter : Filter} (h : filter.Constructed) :
    filter.WellFormed := by
  induction h with
  | stream id => exact .stream id
  | category name => exact .category name
  | queryString query => exact .queryString query
  | and hEach h ih => exact wellFormed_of_and? ih h
  | or hEach h ih => exact wellFormed_of_or? ih h
  | both hLeft hRight ihLeft ihRight => exact wellFormed_both ihLeft ihRight
  | anyStreamOf h => exact wellFormed_of_anyStreamOf h
  | read h => exact wellFormed_of_ofJson h

/-- The filters made from outside are the well-formed ones; so the children of such a filter, and
filters that an operation returns, could as well have been made from outside. -/
theorem constructed_iff_wellFormed {filter : Filter} : filter.Constructed ↔ filter.WellFormed := by
  refine ⟨Constructed.wellFormed, fun h => ?_⟩
  induction h with
  -- children that differ already pass the merging of equal ones unchanged
  | and hNonempty hNodup hEach ih =>
    have hAnd := and?_eq_ok_iff.mpr ⟨hNonempty, rfl⟩
    rw [distinct_of_nodup hNodup] at hAnd
    exact .and ih hAnd
  | or hNonempty hNodup hEach ih =>
    have hOr := or?_eq_ok_iff.mpr ⟨hNonempty, rfl⟩
    rw [distinct_of_nodup hNodup] at hOr
    exact .or ih hOr
  | stream id => exact .stream id
  | category name => exact .category name
  | queryString query => exact .queryString query

end Filter

end LogSearch
