import LogSearch.NameSet

/-!
# Tables keyed by names

A table holds at most one value per name and lists its entries in ascending
code-point order of the names.  As with sets, equal contents make equal values.
-/

namespace LogSearch

/-! ### Ascending entry lists -/

/-- Put a value under a name in an ascending entry list, replacing the value already there. -/
def insertEntry {α : Type} (name : String) (value : α) :
    List (String × α) → List (String × α)
  | [] => [(name, value)]
  | first :: rest =>
    if name < first.1 then (name, value) :: first :: rest
    else if first.1 < name then first :: insertEntry name value rest
    else (name, value) :: rest

theorem mem_insertEntry {α : Type} {name : String} {value : α} {entry : String × α}
    {entries : List (String × α)} (h : entry ∈ insertEntry name value entries) :
    entry = (name, value) ∨ entry ∈ entries := by
  induction entries with
  | nil => simpa [insertEntry] using h
  | cons first rest ih =>
    rw [insertEntry] at h
    split at h
    · simpa using h
    · split at h
      · rcases List.mem_cons.mp h with rfl | hRest
        · exact Or.inr List.mem_cons_self
        · exact (ih hRest).imp_right (List.mem_cons_of_mem _)
      · exact (List.mem_cons.mp h).imp_right (List.mem_cons_of_mem _)

theorem pairwise_insertEntry {α : Type} {name : String} {value : α}
    {entries : List (String × α)} (h : entries.Pairwise (fun a b => a.1 < b.1)) :
    (insertEntry name value entries).Pairwise (fun a b => a.1 < b.1) := by
  induction entries with
  | nil => simp [insertEntry]
  | cons first rest ih =>
    rw [List.pairwise_cons] at h
    rw [insertEntry]
    split
    · next hlt =>
      refine List.pairwise_cons.mpr ⟨fun other hOther => ?_, List.pairwise_cons.mpr h⟩
      rcases List.mem_cons.mp hOther with rfl | hRest
      · exact hlt
      · exact String.lt_trans hlt (h.1 other hRest)
    · next hge =>
      split
      · next hlt =>
        refine List.pairwise_cons.mpr ⟨fun other hOther => ?_, ih h.2⟩
        rcases mem_insertEntry hOther with rfl | hRest
        · exact hlt
        · exact h.1 other hRest
      · next hle =>
        have hEq : name = first.1 := name_eq_of_not_lt hge hle
        refine List.pairwise_cons.mpr ⟨fun other hOther => ?_, h.2⟩
        exact hEq ▸ h.1 other hOther

theorem lookup_insertEntry_self {α : Type} (name : String) (value : α)
    (entries : List (String × α)) :
    (insertEntry name value entries).lookup name = some value := by
  induction entries with
  | nil => simp [insertEntry]
  | cons first rest ih =>
    rw [insertEntry]
    split
    · simp
    · split
      · next hlt =>
        have hNe : (name == first.1) = false := by
          simp only [beq_eq_false_iff_ne, ne_eq]
          rintro rfl
          exact String.lt_irrefl _ hlt
        rw [List.lookup_cons, hNe]
        exact ih
      · simp

theorem lookup_insertEntry_of_ne {α : Type} {name other : String} (hNe : other ≠ name)
    (value : α) (entries : List (String × α)) :
    (insertEntry name value entries).lookup other = entries.lookup other := by
  have hOther : (other == name) = false := by simpa using hNe
  induction entries with
  | nil => simpa [insertEntry] using hNe
  | cons first rest ih =>
    obtain ⟨key, held⟩ := first
    rw [insertEntry]
    split
    · rw [List.lookup_cons, hOther]
    · next hge =>
      split
      · simp only [List.lookup_cons, ih]
      · next hle =>
        obtain rfl : name = key := name_eq_of_not_lt hge hle
        simp only [List.lookup_cons, hOther]

/-! ### The type of tables -/

/-- A finite table from names to values, held as its entries in ascending order of the names. -/
structure Keyed (α : Type) where
  /-- The entries, in ascending order of their names. -/
  entries : List (String × α)
  /-- No name is out of order or repeated. -/
  ascending : entries.Pairwise (fun a b => a.1 < b.1)

namespace Keyed

variable {α β : Type}

instance [DecidableEq α] : DecidableEq (Keyed α) := fun left right =>
  if h : left.entries = right.entries then
    .isTrue (by cases left; cases right; cases h; rfl)
  else
    .isFalse (by rintro rfl; exact h rfl)

/-- The table without entries. -/
def empty : Keyed α := ⟨[], List.Pairwise.nil⟩

instance : EmptyCollection (Keyed α) := ⟨empty⟩

instance : Inhabited (Keyed α) := ⟨empty⟩

/-- Whether the table has no entries. -/
def isEmpty (table : Keyed α) : Bool :=
  table.entries.isEmpty

/-- The value under a name. -/
def get? (table : Keyed α) (name : String) : Option α :=
  table.entries.lookup name

/-- Whether a name has a value. -/
def contains (table : Keyed α) (name : String) : Bool :=
  (table.get? name).isSome

/-- The table with a value put under a name, whatever was there before. -/
def insert (name : String) (value : α) (table : Keyed α) : Keyed α :=
  ⟨insertEntry name value table.entries, pairwise_insertEntry table.ascending⟩

/-- The table of the given entries; of several under one name the last one counts. -/
def ofList (entries : List (String × α)) : Keyed α :=
  entries.foldl (fun table entry => table.insert entry.1 entry.2) empty

@[simp]
theorem get?_empty (name : String) : (∅ : Keyed α).get? name = none :=
  rfl

@[simp]
theorem get?_insert_self (name : String) (value : α) (table : Keyed α) :
    (table.insert name value).get? name = some value :=
  lookup_insertEntry_self name value table.entries

theorem get?_insert_of_ne {name other : String} (hNe : other ≠ name) (value : α)
    (table : Keyed α) : (table.insert name value).get? other = table.get? other :=
  lookup_insertEntry_of_ne hNe value table.entries

/-- Of entries with distinct names that are put into a table, each takes effect. -/
theorem get?_foldl_insert {entries : List (String × α)} (name : String) (table : Keyed α)
    (h : entries.Pairwise (fun a b => a.1 < b.1)) :
    (entries.foldl (fun table entry => table.insert entry.1 entry.2) table).get? name =
      (entries.lookup name).or (table.get? name) := by
  induction entries generalizing table with
  | nil => rfl
  | cons first rest ih =>
    obtain ⟨key, value⟩ := first
    obtain ⟨hFirst, hRest⟩ := List.pairwise_cons.mp h
    rw [List.foldl_cons, ih _ hRest]
    by_cases hSame : name = key
    · have hNone : rest.lookup key = none := by
        refine List.lookup_eq_none_iff.mpr fun other hOther => ?_
        have hNe : key ≠ other.1 := by
          intro hEqual
          exact String.lt_irrefl _ (hEqual ▸ hFirst other hOther)
        simpa using hNe
      rw [hSame, hNone, get?_insert_self, List.lookup_cons_self]
      rfl
    · have hOther : (name == key) = false := by simpa using hSame
      rw [get?_insert_of_ne hSame, List.lookup_cons, hOther]

/-- What is found in a table comes from an entry put into it or was there before. -/
theorem mem_of_get?_foldl_insert {entries : List (String × α)} {table : Keyed α} {name : String}
    {value : α}
    (h : (entries.foldl (fun table entry => table.insert entry.1 entry.2) table).get? name =
      some value) : (name, value) ∈ entries ∨ table.get? name = some value := by
  induction entries generalizing table with
  | nil => exact .inr h
  | cons first rest ih =>
    rcases ih h with hLater | hInserted
    · exact .inl (List.mem_cons_of_mem _ hLater)
    · by_cases hSame : name = first.1
      · rw [hSame, get?_insert_self, Option.some.injEq] at hInserted
        rw [hSame, ← hInserted]
        exact .inl List.mem_cons_self
      · rw [get?_insert_of_ne hSame] at hInserted
        exact .inr hInserted

/-- Of entries that are put into a table, the last one under a name takes effect. -/
theorem get?_foldl_insert_last (entries : List (String × α)) (name : String) (table : Keyed α) :
    (entries.foldl (fun table entry => table.insert entry.1 entry.2) table).get? name =
      (entries.reverse.lookup name).or (table.get? name) := by
  induction entries generalizing table with
  | nil => rfl
  | cons first rest ih =>
    obtain ⟨key, value⟩ := first
    rw [List.foldl_cons, ih, List.reverse_cons, List.lookup_append, Option.or_assoc]
    by_cases hSame : name = key
    · rw [hSame, get?_insert_self, List.lookup_cons_self]
      rfl
    · have hOther : (name == key) = false := by simpa using hSame
      rw [get?_insert_of_ne hSame, List.lookup_cons, hOther]
      rfl

theorem get?_ofList (entries : List (String × α)) (name : String) :
    (ofList entries).get? name = entries.reverse.lookup name := by
  rw [ofList, get?_foldl_insert_last]
  exact Option.or_none

end Keyed

end LogSearch
