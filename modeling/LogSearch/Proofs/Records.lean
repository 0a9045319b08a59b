import LogSearch.Proofs.ReadBack

/-!
# What a record says

A record comes as an object or as an array of the same fields.  Which of the two it is
makes no difference once it is known what it holds for each field: what stands under the
name of the field in the one, and in the place of the field in the other (`Json.part?`).

Reading a field that is set on its own takes what the record says of it, or the value
for absent fields, and goes on to the next one.  The lemmas here say so in both
directions, so that the reading of a record can be taken apart field by field and put
together again.
-/

namespace LogSearch

namespace Json

/-! ### Fields of a record -/

/-- The form of a record: an object, or an array that is not longer than the list of fields. -/
def IsRecord (names : List String) : Json → Prop
  | .obj _ => True
  | .arr items => items.length ≤ names.length
  | _ => False

/-- What a record holds for a field. -/
def part? (names : List String) (value : Json) (name : String) : Option Json :=
  match value with
  | .obj entries => entries.lookup name
  | .arr items => items[names.idxOf name]?
  | _ => none

variable {α β : Type}

/-- What is held for a field reads as a value, or nothing is held and the value is the one for
absent fields. -/
def Says (value? : Option Json) (read : Json → Attempt β) (absent found : β) : Prop :=
  (value? = none ∧ found = absent) ∨ ∃ value, value? = some value ∧ read value = .ok found

theorem says_none {read : Json → Attempt β} {absent found : β} :
    Says none read absent found ↔ found = absent := by
  simp [Says]

theorem says_some {read : Json → Attempt β} {absent found : β} {value : Json} :
    Says (some value) read absent found ↔ read value = .ok found := by
  simp [Says]

/-- What may be held where a text is expected: nothing, null or a text. -/
def MayBeText (value? : Option Json) : Prop :=
  value? = none ∨ value? = some .null ∨ ∃ text, value? = some (.str text)

/-- The text that is held, if one is. -/
def heldText? : Option Json → Option String
  | some (.str text) => some text
  | _ => none

theorem heldText?_eq_some_iff {value? : Option Json} {text : String} :
    heldText? value? = some text ↔ value? = some (.str text) := by
  unfold heldText?
  split
  · simp
  · next hNot =>
    constructor
    · intro h
      contradiction
    · intro h
      exact absurd h (hNot text)

theorem says_text_iff {value? : Option Json} {text? : Option String} :
    Says value? (asOption asText) none text? ↔ MayBeText value? ∧ text? = heldText? value? := by
  cases value? with
  | none => simp [says_none, MayBeText, heldText?]
  | some value =>
    rw [says_some]
    cases value <;> simp [asOption, asText, fail, Except.map, MayBeText, heldText?, eq_comm]

/-- A text that must be there. -/
theorem says_required_text_iff {value? : Option Json} {absent text : String} :
    value? ≠ none ∧ Says value? asText absent text ↔ value? = some (.str text) := by
  cases value? with
  | none => simp
  | some value =>
    rw [says_some]
    cases value <;> simp [asText, fail]

/-! ### Reading them -/

section Fields

variable {name : String} {required : Bool} {read : Json → Attempt β} {set : α → β → α}
  {rest : List (Field α)} {record result : α} {absent : β}

theorem readPresent_set_eq_ok_iff {entries : List (String × Json)}
    (hAbsent : set record absent = record) :
    readPresent entries
        (⟨name, required, fun record value => do return set record (← read value)⟩ :: rest) record =
        .ok result ↔
      ∃ found, Says (entries.lookup name) read absent found ∧
        readPresent entries rest (set record found) = .ok result := by
  rw [readPresent]
  cases entries.lookup name with
  | none => simp [says_none, hAbsent]
  | some value => simp only [says_some, bind_eq_ok, pure_eq_ok, exists_exists_and_eq_and]

/-- The items of an array are read from a place on, of which the field is the first. -/
theorem readInOrder_set_eq_ok_iff {items : List Json} {place : Nat}
    (hAbsent : set record absent = record) :
    readInOrder
        (⟨name, required, fun record value => do return set record (← read value)⟩ :: rest)
        (items.drop place) record = .ok result ↔
      (required = true → items[place]? ≠ none) ∧
        ∃ found, Says items[place]? read absent found ∧
          readInOrder rest (items.drop (place + 1)) (set record found) = .ok result := by
  rw [← List.head?_drop, ← List.tail_drop]
  cases items.drop place with
  | nil =>
    rw [readInOrder]
    cases required <;> simp [says_none, hAbsent, fail]
  | cons item others =>
    rw [readInOrder]
    simp only [List.head?_cons, List.tail_cons, says_some, bind_eq_ok, pure_eq_ok,
      exists_exists_and_eq_and]
    simp

theorem readInOrder_nil_eq_ok_iff {items : List Json} {place : Nat} :
    readInOrder [] (items.drop place) record = .ok result ↔
      items.length ≤ place ∧ record = result := by
  rw [← List.drop_eq_nil_iff]
  cases items.drop place <;> simp [readInOrder, fail]

end Fields

theorem asRecord_obj_eq_ok_iff {entries : List (String × Json)} {fields : List (Field α)}
    {start record : α} :
    (Json.obj entries).asRecord fields start = .ok record ↔
      readPresent entries (sortFields fields) start = .ok record ∧
        ∀ field ∈ fields, field.required = true → entries.lookup field.name ≠ none := by
  have hMissing : firstMissing? entries fields = none ↔
      ∀ field ∈ fields, field.required = true → entries.lookup field.name ≠ none := by
    simp [firstMissing?, -List.lookup_eq_none_iff, Option.isNone_iff_eq_none]
  rw [asRecord, bind_eq_ok, ← hMissing]
  cases firstMissing? entries fields with
  | none => simp [pure_eq_ok]
  | some name => simp [fail]

end Json

end LogSearch
