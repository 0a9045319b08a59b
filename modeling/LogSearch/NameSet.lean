/-!
# Sets of names

Stream ids, category names and the other names a search deals in come as finite
sets.  A set is kept as its members in ascending code-point order without
repetition, so two sets with the same members are equal as values and every
listing of a set is in that order.
-/

namespace LogSearch

/-! ### Ascending lists of names -/

/-- Put a name in its place in an ascending list; a name already there stays single. -/
def insertName (name : String) : List String → List String
  | [] => [name]
  | first :: rest =>
    if name < first then name :: first :: rest
    else if first < name then first :: insertName name rest
    else first :: rest

/-- Two names neither of which comes before the other are the same name. -/
theorem name_eq_of_not_lt {a b : String} (hab : ¬ a < b) (hba : ¬ b < a) : a = b :=
  String.le_antisymm (String.not_lt.mp hba) (String.not_lt.mp hab)

theorem mem_insertName {name other : String} {names : List String} :
    other ∈ insertName name names ↔ other = name ∨ other ∈ names := by
  induction names with
  | nil => simp [insertName]
  | cons first rest ih =>
    rw [insertName]
    split
    · simp
    · next hge =>
      split
      · simp only [List.mem_cons, ih]
        grind
      · next hle =>
        have hEq : name = first := name_eq_of_not_lt hge hle
        simp [hEq]

theorem pairwise_insertName {name : String} {names : List String}
    (h : names.Pairwise (· < ·)) : (insertName name names).Pairwise (· < ·) := by
  induction names with
  | nil => simp [insertName]
  | cons first rest ih =>
    rw [List.pairwise_cons] at h
    rw [insertName]
    split
    · next hlt =>
      refine List.pairwise_cons.mpr ⟨fun other hOther => ?_, List.pairwise_cons.mpr h⟩
      rcases List.mem_cons.mp hOther with rfl | hRest
      · exact hlt
      · exact String.lt_trans hlt (h.1 other hRest)
    · split
      · next hlt =>
        refine List.pairwise_cons.mpr ⟨fun other hOther => ?_, ih h.2⟩
        rcases mem_insertName.mp hOther with rfl | hRest
        · exact hlt
        · exact h.1 other hRest
      · exact List.pairwise_cons.mpr h

/-- The first name of a list that equals an earlier one or one of the names given as seen. -/
def firstRepeated? (seen : List String) : List String → Option String
  | [] => none
  | first :: rest => if first ∈ seen then some first else firstRepeated? (first :: seen) rest

theorem firstRepeated?_eq_none_iff {seen names : List String} :
    firstRepeated? seen names = none ↔ names.Nodup ∧ ∀ name ∈ names, name ∉ seen := by
  induction names generalizing seen with
  | nil => simp [firstRepeated?]
  | cons first rest ih =>
    by_cases h : first ∈ seen
    · simp [firstRepeated?, h]
    · simp only [firstRepeated?, if_neg h, ih, List.nodup_cons, List.mem_cons]
      grind

theorem firstRepeated?_nil_eq_none_iff {names : List String} :
    firstRepeated? [] names = none ↔ names.Nodup := by
  simp [firstRepeated?_eq_none_iff]

/-! ### The type of sets -/

/-- A finite set of names, held as its members in ascending order. -/
structure NameSet where
  /-- The members, in ascending code-point order. -/
  toList : List String
  /-- No member is out of order or repeated. -/
  ascending : toList.Pairwise (· < ·)
  deriving DecidableEq

namespace NameSet

instance : Membership String NameSet where
  mem names name := name ∈ names.toList

instance (name : String) (names : NameSet) : Decidable (name ∈ names) :=
  inferInstanceAs (Decidable (name ∈ names.toList))

/-- The set without members. -/
def empty : NameSet := ⟨[], List.Pairwise.nil⟩

instance : EmptyCollection NameSet := ⟨empty⟩

instance : Inhabited NameSet := ⟨empty⟩

/-- Whether the set has no members. -/
def isEmpty (names : NameSet) : Bool :=
  names.toList.isEmpty

/-- The set with one more member. -/
def insert (name : String) (names : NameSet) : NameSet :=
  ⟨insertName name names.toList, pairwise_insertName names.ascending⟩

/-- The set of the names in a list, in whatever order and however often they come. -/
def ofList (names : List String) : NameSet :=
  names.foldr insert empty

/-- The set with one member. -/
def singleton (name : String) : NameSet :=
  ⟨[name], List.pairwise_singleton _ _⟩

/-- The names that are in either set. -/
def union (left right : NameSet) : NameSet :=
  left.toList.foldr insert right

instance : Union NameSet := ⟨union⟩

/-- The members that a test accepts. -/
def filter (keep : String → Bool) (names : NameSet) : NameSet :=
  ⟨names.toList.filter keep, names.ascending.filter keep⟩

/-- Whether a name is among those to keep, of which none stands for all. -/
def keeps (names : NameSet) (name : String) : Bool :=
  names.isEmpty || name ∈ names

theorem mem_def {name : String} {names : NameSet} : name ∈ names ↔ name ∈ names.toList :=
  Iff.rfl

@[simp]
theorem not_mem_empty (name : String) : ¬ name ∈ (∅ : NameSet) :=
  List.not_mem_nil

@[simp]
theorem mem_insert {name other : String} {names : NameSet} :
    other ∈ names.insert name ↔ other = name ∨ other ∈ names :=
  mem_insertName

@[simp]
theorem mem_ofList {name : String} {names : List String} :
    name ∈ ofList names ↔ name ∈ names := by
  induction names with
  | nil => simp [ofList, mem_def, empty]
  | cons first rest ih =>
    have hStep : ofList (first :: rest) = (ofList rest).insert first := rfl
    rw [hStep, mem_insert, ih, List.mem_cons]

@[simp]
theorem mem_singleton {name other : String} : other ∈ singleton name ↔ other = name := by
  simp [mem_def, singleton]

@[simp]
theorem mem_union {name : String} {left right : NameSet} :
    name ∈ left ∪ right ↔ name ∈ left ∨ name ∈ right := by
  obtain ⟨names, hNames⟩ := left
  show name ∈ names.foldr insert right ↔ name ∈ names ∨ name ∈ right
  clear hNames
  induction names with
  | nil => simp
  | cons first rest ih => simp only [List.foldr_cons, mem_insert, ih, List.mem_cons, or_assoc]

@[simp]
theorem mem_filter {keep : String → Bool} {name : String} {names : NameSet} :
    name ∈ names.filter keep ↔ name ∈ names ∧ keep name = true :=
  List.mem_filter

theorem isEmpty_iff {names : NameSet} : names.isEmpty = true ↔ names = ∅ := by
  obtain ⟨names, hNames⟩ := names
  cases names with
  | nil => simp [isEmpty, EmptyCollection.emptyCollection, empty]
  | cons first rest => simp [isEmpty, EmptyCollection.emptyCollection, empty]

theorem keeps_iff {names : NameSet} {name : String} :
    names.keeps name = true ↔ names = ∅ ∨ name ∈ names := by
  rw [keeps, Bool.or_eq_true, isEmpty_iff, decide_eq_true_iff]

end NameSet

end LogSearch
