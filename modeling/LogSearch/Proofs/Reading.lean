import LogSearch.Json.Shape
import LogSearch.Proofs.Outcome

/-!
# What is known of values that have been read

A record is read field by field, in one order from an object and in another from
an array.  Neither order matters to a property of the record that reading any
single field keeps: it holds of the record in the end if it holds of the record
at the start (`asRecord_keeps`).  The items of a list that has been read were
each read from some value.
-/

namespace LogSearch

namespace Json

/-- A property of JSON values that passes from all parts to the whole holds of all values. -/
@[induction_eliminator]
theorem induction {motive : Json → Prop} (null : motive .null)
    (bool : ∀ value, motive (.bool value)) (int : ∀ value, motive (.int value))
    (float : ∀ value, motive (.float value)) (str : ∀ text, motive (.str text))
    (arr : ∀ items, (∀ item ∈ items, motive item) → motive (.arr items))
    (obj : ∀ fields, (∀ field ∈ fields, motive field.2) → motive (.obj fields))
    (value : Json) : motive value :=
  @Json.rec motive (fun items => ∀ item ∈ items, motive item)
    (fun fields => ∀ field ∈ fields, motive field.2) (fun field => motive field.2)
    null bool int float str arr obj (by simp)
    (fun first rest hFirst hRest => List.forall_mem_cons.mpr ⟨hFirst, hRest⟩) (by simp)
    (fun first rest hFirst hRest => List.forall_mem_cons.mpr ⟨hFirst, hRest⟩)
    (fun _ _ hValue => hValue) value

/-! ### Single values and lists -/

section Values

variable {α : Type} {read : Json → Attempt α} {value : Json}

theorem read_of_asOption {result : α} (h : value.asOption read = .ok (some result)) :
    read value = .ok result := by
  unfold asOption at h
  split at h
  · simp at h
  · obtain ⟨found, hFound, hSome⟩ := map_eq_ok.mp h
    rw [hFound, Option.some.inj hSome]

theorem exists_of_asList {results : List α} (h : value.asList read = .ok results) {result : α}
    (hResult : result ∈ results) : ∃ item, read item = .ok result := by
  unfold asList at h
  split at h
  · next items =>
    obtain ⟨item, -, hItem⟩ := exists_mem_of_forall₂ (mapM_eq_ok_iff.mp h) hResult
    exact ⟨item, hItem⟩
  · simp [fail] at h

/-- A value in a table that has been read was read itself. -/
theorem exists_of_asKeyed {table : Keyed α} (h : value.asKeyed read = .ok table) {name : String}
    {result : α} (hGet : table.get? name = some result) : ∃ item, read item = .ok result := by
  unfold asKeyed at h
  split at h
  · next fields =>
    obtain ⟨entries, hEntries, rfl⟩ := map_eq_ok.mp h
    rcases Keyed.mem_of_get?_foldl_insert hGet with hEntry | hNone
    · obtain ⟨field, -, hField⟩ := exists_mem_of_forall₂ (mapM_eq_ok_iff.mp hEntries) hEntry
      obtain ⟨found, hFound, hPair⟩ := map_eq_ok.mp hField
      obtain ⟨-, rfl⟩ := Prod.mk.inj hPair
      exact ⟨field.2, hFound⟩
    · contradiction
  · simp [fail] at h

end Values

/-! ### Records -/

section Records

variable {α : Type} {P : α → Prop} {fields : List (Field α)} {start record : α}

/-- Reading the field keeps a property of the record under construction. -/
def Field.Keeps (P : α → Prop) (field : Field α) : Prop :=
  ∀ record value next, P record → field.read record value = .ok next → P next

/-- A field that is read on its own and then put into the record. -/
theorem Field.keeps_of_set {β : Type} {name : String} {required : Bool}
    {read : Json → Attempt β} {set : α → β → α}
    (h : ∀ record value found, P record → read value = .ok found → P (set record found)) :
    Field.Keeps P ⟨name, required, fun record value => do return set record (← read value)⟩ := by
  intro record value next hRecord hRead
  obtain ⟨found, hFound, hNext⟩ := bind_eq_ok.mp hRead
  rw [pure_eq_ok] at hNext
  rw [← hNext]
  exact h record value found hRecord hFound

theorem mem_insertField {field other : Field α} :
    other ∈ insertField field fields ↔ other = field ∨ other ∈ fields := by
  induction fields with
  | nil => simp [insertField]
  | cons first rest ih =>
    rw [insertField]
    split
    · rw [List.mem_cons, ih, List.mem_cons]
      tauto
    · rw [List.mem_cons]

theorem mem_sortFields {field : Field α} : field ∈ sortFields fields ↔ field ∈ fields := by
  induction fields with
  | nil => rfl
  | cons first rest ih =>
    have hStep : sortFields (first :: rest) = insertField first (sortFields rest) := rfl
    rw [hStep, mem_insertField, ih, List.mem_cons]

theorem readPresent_keeps {entries : List (String × Json)}
    (hFields : ∀ field ∈ fields, field.Keeps P) (hStart : P start)
    (h : readPresent entries fields start = .ok record) : P record := by
  induction fields generalizing start with
  | nil =>
    rw [readPresent, Except.ok.injEq] at h
    rwa [← h]
  | cons first rest ih =>
    obtain ⟨hFirst, hRest⟩ := List.forall_mem_cons.mp hFields
    rw [readPresent] at h
    split at h
    · exact ih hRest hStart h
    · next value _ =>
      obtain ⟨next, hNext, hLater⟩ := bind_eq_ok.mp h
      exact ih hRest (hFirst start value next hStart hNext) hLater

theorem readInOrder_keeps {items : List Json} (hFields : ∀ field ∈ fields, field.Keeps P)
    (hStart : P start) (h : readInOrder fields items start = .ok record) : P record := by
  induction fields generalizing items start with
  | nil =>
    cases items with
    | nil =>
      rw [readInOrder, Except.ok.injEq] at h
      rwa [← h]
    | cons item others => simp [readInOrder, fail] at h
  | cons first rest ih =>
    obtain ⟨hFirst, hRest⟩ := List.forall_mem_cons.mp hFields
    cases items with
    | nil =>
      rw [readInOrder] at h
      split at h
      · simp [fail] at h
      · exact ih hRest hStart h
    | cons item others =>
      rw [readInOrder] at h
      obtain ⟨next, hNext, hLater⟩ := bind_eq_ok.mp h
      exact ih hRest (hFirst start item next hStart hNext) hLater

/-- A property that reading any field keeps holds of a record that has been read. -/
theorem asRecord_keeps {value : Json} (hFields : ∀ field ∈ fields, field.Keeps P)
    (hStart : P start) (h : value.asRecord fields start = .ok record) : P record := by
  cases value with
  | obj entries =>
    rw [asRecord] at h
    obtain ⟨last, hLast, hResult⟩ := bind_eq_ok.mp h
    -- an object is read in the order of the names of its fields, which has the same members
    have hKept : P last :=
      readPresent_keeps (fun field hField => hFields field (mem_sortFields.mp hField)) hStart hLast
    split at hResult
    · simp [fail] at hResult
    · rw [pure_eq_ok] at hResult
      rwa [← hResult]
  | arr items => exact readInOrder_keeps hFields hStart h
  | null => simp [asRecord, fail] at h
  | bool value => simp [asRecord, fail] at h
  | int value => simp [asRecord, fail] at h
  | float value => simp [asRecord, fail] at h
  | str text => simp [asRecord, fail] at h

end Records

end Json

end LogSearch
