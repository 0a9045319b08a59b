import LogSearch.Error
import LogSearch.NameSet

/-!
# Filter trees

A filter says which documents a query may see.  Its leaves ask for a stream, for
the streams of a category or for a match of a query text; its inner nodes take
the conjunction or disjunction of their children.

`Filter.WellFormed` is what every filter built here satisfies: no inner node is
childless, and no two children of a node are equal.  The smart constructors
`and?` and `or?` establish it by dropping a child that equals an earlier one and
by refusing an empty list.
-/

namespace LogSearch

/-- A filter tree. -/
inductive Filter where
  /-- All children hold. -/
  | and (children : List Filter)
  /-- Some child holds. -/
  | or (children : List Filter)
  /-- The document is in a stream. -/
  | stream (id : String)
  /-- The document is in a stream of a category. -/
  | category (name : String)
  /-- The document matches a query text. -/
  | queryString (query : String)
  deriving Inhabited

namespace Filter

/-! ### Equality -/

mutual

/-- Whether two filters are equal. -/
def decEq : (a b : Filter) → Decidable (a = b)
  | .and xs, .and ys => match decEqList xs ys with
    | .isTrue h => .isTrue (h ▸ rfl)
    | .isFalse h => .isFalse fun hEq => h (Filter.and.inj hEq)
  | .or xs, .or ys => match decEqList xs ys with
    | .isTrue h => .isTrue (h ▸ rfl)
    | .isFalse h => .isFalse fun hEq => h (Filter.or.inj hEq)
  | .stream x, .stream y =>
    if h : x = y then .isTrue (h ▸ rfl) else .isFalse fun hEq => h (Filter.stream.inj hEq)
  | .category x, .category y =>
    if h : x = y then .isTrue (h ▸ rfl) else .isFalse fun hEq => h (Filter.category.inj hEq)
  | .queryString x, .queryString y =>
    if h : x = y then .isTrue (h ▸ rfl) else .isFalse fun hEq => h (Filter.queryString.inj hEq)
  | .and _, .or _ | .and _, .stream _ | .and _, .category _ | .and _, .queryString _
  | .or _, .and _ | .or _, .stream _ | .or _, .category _ | .or _, .queryString _
  | .stream _, .and _ | .stream _, .or _ | .stream _, .category _ | .stream _, .queryString _
  | .category _, .and _ | .category _, .or _ | .category _, .stream _
  | .category _, .queryString _
  | .queryString _, .and _ | .queryString _, .or _ | .queryString _, .stream _
  | .queryString _, .category _ => .isFalse (by simp)

/-- Whether two lists of filters are equal. -/
def decEqList : (a b : List Filter) → Decidable (a = b)
  | [], [] => .isTrue rfl
  | [], _ :: _ | _ :: _, [] => .isFalse (by simp)
  | x :: xs, y :: ys => match decEq x y with
    | .isFalse h => .isFalse fun hEq => h (List.cons.inj hEq).1
    | .isTrue h => match decEqList xs ys with
      | .isTrue hRest => .isTrue (h ▸ hRest ▸ rfl)
      | .isFalse hRest => .isFalse fun hEq => hRest (List.cons.inj hEq).2

end

instance : DecidableEq Filter := decEq

/-! ### Building filters -/

/-- The filters of a list without those that equal an earlier one. -/
def distinct : List Filter → List Filter
  | [] => []
  | first :: rest => first :: (distinct rest).filter (· ≠ first)

/-- The conjunction of filters, of which there must be one. -/
def and? (filters : List Filter) : Attempt Filter :=
  if filters.isEmpty then .error (.invalid .emptyComposite) else .ok (.and (distinct filters))

/-- The disjunction of filters, of which there must be one. -/
def or? (filters : List Filter) : Attempt Filter :=
  if filters.isEmpty then .error (.invalid .emptyComposite) else .ok (.or (distinct filters))

/-- The conjunction of two filters, which is the filter itself if they are equal. -/
def both (left right : Filter) : Filter :=
  if left = right then left else .and [left, right]

/-- The filter that asks for any of the given streams: none for no stream, a leaf for one. -/
def anyStreamOf : List String → Option Filter
  | [] => none
  | [id] => some (.stream id)
  | ids => some (.or (distinct (ids.map .stream)))

/-! ### Looking at filters -/

/-- The kind of the root. -/
def kind : Filter → FilterKind
  | .and _ => .and
  | .or _ => .or
  | .stream _ => .stream
  | .category _ => .streamCategory
  | .queryString _ => .queryString

/-- The children of an inner node; a leaf has none to speak of. -/
def children? : Filter → Option (List Filter)
  | .and children | .or children => some children
  | .stream _ | .category _ | .queryString _ => none

mutual

/-- All nodes of a filter, a node before its children and these from the left. -/
def nodes : Filter → List Filter
  | .and children => .and children :: nodesOfAll children
  | .or children => .or children :: nodesOfAll children
  | .stream id => [.stream id]
  | .category name => [.category name]
  | .queryString query => [.queryString query]

/-- The nodes of a list of filters. -/
def nodesOfAll : List Filter → List Filter
  | [] => []
  | first :: rest => nodes first ++ nodesOfAll rest

end

/-- The stream that a leaf asks for. -/
def streamId? : Filter → Option String
  | .stream id => some id
  | _ => none

/-- The category that a leaf asks for. -/
def categoryName? : Filter → Option String
  | .category name => some name
  | _ => none

/-- The streams named anywhere in a filter. -/
def streamIds (filter : Filter) : NameSet :=
  NameSet.ofList (filter.nodes.filterMap streamId?)

/-- The categories named anywhere in a filter. -/
def categories (filter : Filter) : NameSet :=
  NameSet.ofList (filter.nodes.filterMap categoryName?)

/-! ### Well-formed filters -/

/-- Every inner node at any depth has a child, and no two of its children are equal. -/
inductive WellFormed : Filter → Prop
  | and {children : List Filter} (nonempty : children ≠ []) (nodup : children.Nodup)
      (each : ∀ child ∈ children, WellFormed child) : WellFormed (.and children)
  | or {children : List Filter} (nonempty : children ≠ []) (nodup : children.Nodup)
      (each : ∀ child ∈ children, WellFormed child) : WellFormed (.or children)
  | stream (id : String) : WellFormed (.stream id)
  | category (name : String) : WellFormed (.category name)
  | queryString (query : String) : WellFormed (.queryString query)

@[simp]
theorem mem_distinct {filter : Filter} {filters : List Filter} :
    filter ∈ distinct filters ↔ filter ∈ filters := by
  induction filters with
  | nil => simp [distinct]
  | cons first rest ih =>
    by_cases h : filter = first <;> simp [distinct, ih, h]

theorem nodup_distinct (filters : List Filter) : (distinct filters).Nodup := by
  induction filters with
  | nil => simp [distinct]
  | cons first rest ih =>
    rw [distinct, List.nodup_cons]
    exact ⟨by simp, ih.filter _⟩

end Filter

end LogSearch
