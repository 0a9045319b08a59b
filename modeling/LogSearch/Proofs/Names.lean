import Mathlib.Data.List.Sort
import LogSearch.Keyed

/-!
# What sets and tables hold

Sets of names and tables keyed by names list what they hold in ascending order, so
that nothing else is to be known of them: two sets with the same members are equal,
and so are two tables with the same values under the same names.  In particular, a
set or a table is what its own listing makes up again.
-/

namespace LogSearch

namespace NameSet

theorem ext {left right : NameSet} (h : ∀ name, name ∈ left ↔ name ∈ right) : left = right := by
  have hSame : left.toList = right.toList := left.ascending.eq_of_mem_iff right.ascending h
  cases left
  cases right
  cases hSame
  rfl

theorem ofList_eq_ofList_iff {left right : List String} :
    ofList left = ofList right ↔ ∀ name, name ∈ left ↔ name ∈ right := by
  constructor
  · intro h name
    rw [← mem_ofList, h, mem_ofList]
  · intro h
    refine ext fun name => ?_
    rw [mem_ofList, mem_ofList, h]

/-- The members of a set make up the set. -/
theorem ofList_toList (names : NameSet) : ofList names.toList = names :=
  ext fun _ => mem_ofList

end NameSet

namespace Keyed

variable {α : Type}

/-- The entries of a table are what is found in it. -/
theorem mem_entries_iff {table : Keyed α} {name : String} {value : α} :
    (name, value) ∈ table.entries ↔ table.get? name = some value := by
  rw [get?, List.lookup_eq_some_iff]
  constructor
  · intro h
    obtain ⟨before, after, hEntries⟩ := List.append_of_mem h
    refine ⟨before, after, hEntries, fun earlier hEarlier => ?_⟩
    -- an entry that comes before has a lesser name
    have hLess : earlier.1 < name :=
      (List.pairwise_append.mp (hEntries ▸ table.ascending)).2.2 earlier hEarlier _
        List.mem_cons_self
    have hNe : name ≠ earlier.1 := by
      rintro rfl
      exact String.lt_irrefl _ hLess
    simpa using hNe
  · rintro ⟨before, after, hEntries, -⟩
    simp [hEntries]

theorem ext {left right : Keyed α} (h : ∀ name, left.get? name = right.get? name) :
    left = right := by
  have hSame : left.entries = right.entries := by
    have hIrrefl : Std.Irrefl fun a b : String × α => a.1 < b.1 :=
      ⟨fun entry => String.lt_irrefl entry.1⟩
    have hAntisymm : Std.Antisymm fun a b : String × α => a.1 < b.1 :=
      ⟨fun _ _ hLess hGreater => absurd hGreater (String.lt_asymm hLess)⟩
    refine left.ascending.eq_of_mem_iff right.ascending fun entry => ?_
    rw [mem_entries_iff, mem_entries_iff, h]
  cases left
  cases right
  cases hSame
  rfl

theorem isEmpty_iff {table : Keyed α} : table.isEmpty = true ↔ table = ∅ := by
  constructor
  · intro h
    refine ext fun name => ?_
    rw [get?, List.isEmpty_iff.mp h]
    rfl
  · rintro rfl
    rfl

/-- The entries of a table make up the table. -/
theorem ofList_entries (table : Keyed α) : ofList table.entries = table := by
  refine ext fun name => ?_
  rw [ofList, get?_foldl_insert name empty table.ascending]
  exact Option.or_none

end Keyed

end LogSearch
