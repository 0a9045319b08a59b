import LogSearch.Proofs.Names
import LogSearch.Proofs.Reading

/-!
# Reading back what was written

Values are written and read by separate functions, and an object does not show
everything that its record holds: what is absent or empty is left out.  `Json.Gives`
says that an object still gives a field its value, be it from the entry of its name
or because there is none and the value is the one that an absent field has.  With
that for every field the record is read back as it was (`readPresent_set`).
-/

namespace LogSearch

namespace Json

/-! ### Single values and lists -/

section Values

variable {α : Type} {read : Json → Attempt α}

theorem asWord_word (n : UInt32) : (word n).asWord = .ok n := by
  have hRange : (0 : Int) ≤ (n.toNat : Int) ∧ (n.toNat : Int) ≤ (maxUnsigned32 : Nat) := by
    have hFits : n.toNat < UInt32.size := n.toNat_lt
    have hMax : maxUnsigned32 + 1 = UInt32.size := by decide
    omega
  rw [asWord, word, asIntIn, if_pos hRange]
  simp [Except.map]

/-- Items that are each read back make up a list that is. -/
theorem asList_map {render : α → Json} {items : List α}
    (h : ∀ item ∈ items, read (render item) = .ok item) :
    asList read (.arr (items.map render)) = .ok items := by
  rw [asList, mapM_eq_ok_iff, List.forall₂_map_left_iff, List.forall₂_same]
  exact h

theorem asList_texts (values : List String) : asList asText (texts values) = .ok values :=
  asList_map fun _ _ => rfl

theorem asNames_names (values : NameSet) : (names values).asNames = .ok values := by
  rw [asNames, names, asList_texts, Except.map, NameSet.ofList_toList]

/-- Values that are each read back make up a table that is. -/
theorem asKeyed_keyed {render : α → Json} {table : Keyed α}
    (h : ∀ name value, table.get? name = some value → read (render value) = .ok value) :
    (keyed render table).asKeyed read = .ok table := by
  have hEntries : (table.entries.map fun entry => (entry.1, render entry.2)).mapM
      (fun entry => (read entry.2).map (entry.1, ·)) = .ok table.entries := by
    rw [mapM_eq_ok_iff, List.forall₂_map_left_iff, List.forall₂_same]
    rintro ⟨name, value⟩ hEntry
    exact map_eq_ok.mpr ⟨value, h name value (Keyed.mem_entries_iff.mp hEntry), rfl⟩
  rw [keyed, asKeyed, hEntries, Except.map, Keyed.ofList_entries]

theorem asOption_of_read {value : Json} {result : α} (hValue : value ≠ .null)
    (h : read value = .ok result) : value.asOption read = .ok (some result) := by
  unfold asOption
  split
  · contradiction
  · rw [h]
    rfl

end Values

/-! ### Objects -/

section Objects

variable {α β : Type} {entries : List (String × Json)} {name : String} {read : Json → Attempt β}

@[simp]
theorem lookup_optionalField (name other : String) (render : β → Json) (value : Option β) :
    (optionalField other render value).lookup name =
      if name = other then value.map render else none := by
  cases value with
  | none => simp [optionalField]
  | some found =>
    by_cases h : name = other
    · simp [optionalField, h]
    · have hOther : (name == other) = false := by simpa using h
      simp [optionalField, List.lookup_cons, h, hOther]

@[simp]
theorem lookup_fieldWhen (condition : Bool) (name other : String) (value : Json) :
    (fieldWhen condition other value).lookup name =
      if name = other ∧ condition = true then some value else none := by
  cases condition with
  | false => simp [fieldWhen]
  | true =>
    by_cases h : name = other
    · simp [fieldWhen, h]
    · have hOther : (name == other) = false := by simpa using h
      simp [fieldWhen, List.lookup_cons, h, hOther]

/-- What stands under a name reads as a value, or nothing stands there and the value is the one for
absent fields. -/
def Gives (entries : List (String × Json)) (name : String) (read : Json → Attempt β)
    (absent found : β) : Prop :=
  (entries.lookup name = none ∧ found = absent) ∨
    ∃ value, entries.lookup name = some value ∧ read value = .ok found

theorem gives_absent (h : entries.lookup name = none) (absent : β) :
    Gives entries name read absent absent :=
  .inl ⟨h, rfl⟩

theorem gives_value {value : Json} {absent found : β} (h : entries.lookup name = some value)
    (hRead : read value = .ok found) : Gives entries name read absent found :=
  .inr ⟨value, h, hRead⟩

theorem gives_text {absent text : String} (h : entries.lookup name = some (.str text)) :
    Gives entries name asText absent text :=
  gives_value h rfl

theorem Gives.append_left {absent found : β} {others : List (String × Json)}
    (h : Gives entries name read absent found) (hOthers : others.lookup name = none) :
    Gives (entries ++ others) name read absent found := by
  unfold Gives
  rw [List.lookup_append, hOthers, Option.or_none]
  exact h

theorem Gives.append_right {absent found : β} {others : List (String × Json)}
    (h : Gives others name read absent found) (hEntries : entries.lookup name = none) :
    Gives (entries ++ others) name read absent found := by
  unfold Gives
  rw [List.lookup_append, hEntries, Option.none_or]
  exact h

/-- An option that is left out when there is nothing to write. -/
theorem gives_option {render : β → Json} {value? : Option β}
    (h : entries.lookup name = value?.map render)
    (hRead : ∀ value, value? = some value →
      render value ≠ .null ∧ read (render value) = .ok value) :
    Gives entries name (asOption read) none value? := by
  cases value? with
  | none => exact gives_absent h none
  | some value =>
    obtain ⟨hValue, hSame⟩ := hRead value rfl
    exact gives_value h (asOption_of_read hValue hSame)

/-- A list that is left out when it is empty. -/
theorem gives_list {render : β → Json} {items : List β}
    (h : entries.lookup name =
      if items.isEmpty then none else some (.arr (items.map render)))
    (hRead : ∀ item ∈ items, read (render item) = .ok item) :
    Gives entries name (asList read) [] items := by
  cases items with
  | nil => exact gives_absent h []
  | cons first rest => exact gives_value h (asList_map hRead)

/-- A set of names that is left out when it is empty. -/
theorem gives_names {values : NameSet}
    (h : entries.lookup name = if values.isEmpty = false then some (names values) else none) :
    Gives entries name asNames ∅ values := by
  cases hEmpty : values.isEmpty with
  | true =>
    rw [hEmpty] at h
    rw [NameSet.isEmpty_iff.mp hEmpty]
    exact gives_absent h ∅
  | false =>
    rw [hEmpty] at h
    exact gives_value h (asNames_names values)

/-- A table that is left out when it is empty. -/
theorem gives_keyed {render : β → Json} {table : Keyed β}
    (h : entries.lookup name =
      if table.isEmpty = false then some (keyed render table) else none)
    (hRead : ∀ key value, table.get? key = some value → read (render value) = .ok value) :
    Gives entries name (asKeyed read) ∅ table := by
  cases hEmpty : table.isEmpty with
  | true =>
    rw [hEmpty] at h
    rw [Keyed.isEmpty_iff.mp hEmpty]
    exact gives_absent h ∅
  | false =>
    rw [hEmpty] at h
    exact gives_value h (asKeyed_keyed hRead)

/-- A field that is given its value is set to it. -/
theorem readPresent_set {required : Bool} {set : α → β → α} {rest : List (Field α)} {record : α}
    {absent found : β} (h : Gives entries name read absent found)
    (hAbsent : set record absent = record) :
    readPresent entries
        (⟨name, required, fun record value => do return set record (← read value)⟩ :: rest) record =
      readPresent entries rest (set record found) := by
  rw [readPresent]
  rcases h with ⟨hNone, rfl⟩ | ⟨value, hValue, hRead⟩
  · rw [hNone, hAbsent]
  · rw [hValue]
    simp only [hRead]
    rfl

theorem asRecord_obj {fields : List (Field α)} {start record : α}
    (hRequired : ∀ field ∈ fields, field.required = true → entries.lookup field.name ≠ none)
    (h : readPresent entries (sortFields fields) start = .ok record) :
    (Json.obj entries).asRecord fields start = .ok record := by
  have hMissing : firstMissing? entries fields = none := by
    rw [firstMissing?, Option.map_eq_none_iff, List.find?_eq_none]
    intro field hField
    by_cases hMust : field.required = true
    · simp [hRequired field hField hMust]
    · simp [hMust]
  rw [asRecord, h]
  simp only [hMissing]
  rfl

end Objects

end Json

end LogSearch
