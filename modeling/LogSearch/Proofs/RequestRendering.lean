import LogSearch.Proofs.ReadBack
import LogSearch.Request.Body

/-!
# What a rendered request shows

The JSON form of a request body leaves out what is absent or empty and puts the rest in
two objects inside each other, with one more object for every sort key.  Nothing is lost
on the way.  `SearchBody.ShownIn` says where in a value each part of a body stands: every
list under a name of its own, in its order, and a name is missing exactly if there is
nothing to stand under it.  A body is shown in its JSON form, and no value shows two
bodies.

Whoever compares two values may not tell all numbers in them apart, the zeros of both
signs for instance.  Rendering leaves the numbers inside clauses and aggregations as they
are (`SearchBody.toJson_mapFloats`), so bodies that are rendered alike to such a reader
are alike to the same reader.
-/

namespace LogSearch

/-! ### Where the parts of a body stand -/

namespace Json

/-- Items stand under the name, as an array or an object, and the name is missing exactly if there
are none. -/
def ShowsItems {α : Type} (value : Json) (name : String) (wrap : List α → Json) (items : List α) :
    Prop :=
  value.get? name = if items.isEmpty then none else some (wrap items)

/-- A number stands under the name, which is missing exactly if there is none. -/
def ShowsNumber (value : Json) (name : String) (number? : Option UInt32) : Prop :=
  value.get? name = number?.map .word

section Unique

variable {value : Json} {name : String}

theorem ShowsItems.unique {α : Type} {wrap : List α → Json} {items others : List α}
    (hWrap : Function.Injective wrap) (h : value.ShowsItems name wrap items)
    (hOther : value.ShowsItems name wrap others) : items = others := by
  have hSame := h.symm.trans hOther
  cases items with
  | nil =>
    cases others with
    | nil => rfl
    | cons first rest => contradiction
  | cons first rest =>
    cases others with
    | nil => contradiction
    | cons other more => exact hWrap (Option.some.inj hSame)

theorem word_injective : Function.Injective word := by
  intro m n h
  exact UInt32.toNat_inj.mp (Int.ofNat_inj.mp (Json.int.inj h))

theorem ShowsNumber.unique {number? other? : Option UInt32} (h : value.ShowsNumber name number?)
    (hOther : value.ShowsNumber name other?) : number? = other? :=
  Option.map_injective word_injective (h.symm.trans hOther)

end Unique

end Json

/-- The conditions on documents stand in the value: each list of clauses under its own name. -/
structure BoolQuery.ShownIn (query : BoolQuery) (value : Json) : Prop where
  must : value.ShowsItems "must" .arr query.must
  filter : value.ShowsItems "filter" .arr query.filter
  should : value.ShowsItems "should" .arr query.should
  mustNot : value.ShowsItems "must_not" .arr query.mustNot
  minimum : value.ShowsNumber "minimum_should_match" query.minimumShouldMatch

/-- The parts of a body stand in the value, each under its own name. -/
structure SearchBody.ShownIn (body : SearchBody) (value : Json) : Prop where
  query : ∃ conditions, value.get? "query" = some (.obj [("bool", conditions)]) ∧
    body.query.ShownIn conditions
  sort : value.ShowsItems "sort" .arr (body.sort.map SortKey.requestJson)
  start : value.ShowsNumber "from" body.start
  size : value.ShowsNumber "size" body.size
  aggregations : value.ShowsItems "aggregations" .obj body.aggregations.entries

namespace BoolQuery

theorem exists_shownIn (query : BoolQuery) :
    ∃ conditions, query.toJson = .obj [("bool", conditions)] ∧ query.ShownIn conditions := by
  refine ⟨_, rfl, ?_, ?_, ?_, ?_, ?_⟩ <;>
    simp [Json.ShowsItems, Json.ShowsNumber, Json.get?, clauseField, List.lookup_append]

theorem ShownIn.unique {query other : BoolQuery} {value : Json} (h : query.ShownIn value)
    (hOther : other.ShownIn value) : query = other := by
  have hArr : Function.Injective Json.arr := fun _ _ => Json.arr.inj
  have hMust : query.must = other.must := h.must.unique hArr hOther.must
  have hFilter : query.filter = other.filter := h.filter.unique hArr hOther.filter
  have hShould : query.should = other.should := h.should.unique hArr hOther.should
  have hMustNot : query.mustNot = other.mustNot := h.mustNot.unique hArr hOther.mustNot
  have hMinimum : query.minimumShouldMatch = other.minimumShouldMatch :=
    h.minimum.unique hOther.minimum
  cases query
  cases other
  simp_all

end BoolQuery

theorem Direction.word_injective : Function.Injective Direction.word := by
  intro direction other
  cases direction <;> cases other <;> decide

theorem SortKey.requestJson_injective : Function.Injective SortKey.requestJson := by
  rintro ⟨field, direction⟩ ⟨other, another⟩ h
  obtain ⟨rfl, hWord⟩ : field = other ∧ direction.word = another.word := by
    simpa [requestJson] using h
  rw [Direction.word_injective hWord]

namespace SearchBody

theorem shownIn_toJson (body : SearchBody) : body.ShownIn body.toJson where
  query := by
    obtain ⟨conditions, hConditions, hShown⟩ := body.query.exists_shownIn
    refine ⟨conditions, ?_, hShown⟩
    rw [← hConditions]
    simp [Json.get?, toJson, List.lookup_append]
  sort := by
    simp [Json.ShowsItems, Json.get?, toJson, List.lookup_append, List.lookup_cons]
  start := by
    simp [Json.ShowsNumber, Json.get?, toJson, List.lookup_append, List.lookup_cons]
  size := by
    simp [Json.ShowsNumber, Json.get?, toJson, List.lookup_append, List.lookup_cons]
  aggregations := by
    simp [Json.ShowsItems, Json.get?, toJson, List.lookup_append, List.lookup_cons, Json.keyed,
      Keyed.isEmpty]

theorem ShownIn.unique {body other : SearchBody} {value : Json} (h : body.ShownIn value)
    (hOther : other.ShownIn value) : body = other := by
  have hArr : Function.Injective Json.arr := fun _ _ => Json.arr.inj
  have hObj : Function.Injective Json.obj := fun _ _ => Json.obj.inj
  have hQuery : body.query = other.query := by
    obtain ⟨conditions, hConditions, hShown⟩ := h.query
    obtain ⟨others, hOthers, hShownOther⟩ := hOther.query
    obtain rfl : conditions = others := by simpa using hConditions.symm.trans hOthers
    exact hShown.unique hShownOther
  have hSort : body.sort = other.sort :=
    List.map_injective_iff.mpr SortKey.requestJson_injective (h.sort.unique hArr hOther.sort)
  have hStart : body.start = other.start := h.start.unique hOther.start
  have hSize : body.size = other.size := h.size.unique hOther.size
  have hAggregations : body.aggregations = other.aggregations := by
    rw [← Keyed.ofList_entries body.aggregations, h.aggregations.unique hObj hOther.aggregations,
      Keyed.ofList_entries]
  cases body
  cases other
  simp_all

theorem toJson_injective : Function.Injective toJson := by
  intro body other h
  exact body.shownIn_toJson.unique (h ▸ other.shownIn_toJson)

end SearchBody

/-! ### Numbers that are not told apart -/

namespace Json

mutual

/-- The value with a function applied to its numbers with a fraction, at any depth. -/
def mapFloats (f : Binary64 → Binary64) : Json → Json
  | .null => .null
  | .bool value => .bool value
  | .int value => .int value
  | .float value => .float (f value)
  | .str text => .str text
  | .arr items => .arr (mapFloatsOfItems f items)
  | .obj fields => .obj (mapFloatsOfFields f fields)

/-- The items of an array with a function applied to their numbers with a fraction. -/
def mapFloatsOfItems (f : Binary64 → Binary64) : List Json → List Json
  | [] => []
  | first :: rest => mapFloats f first :: mapFloatsOfItems f rest

/-- The fields of an object with a function applied to their numbers with a fraction. -/
def mapFloatsOfFields (f : Binary64 → Binary64) : List (String × Json) → List (String × Json)
  | [] => []
  | (name, value) :: rest => (name, mapFloats f value) :: mapFloatsOfFields f rest

end

section Parts

variable (f : Binary64 → Binary64)

theorem mapFloatsOfItems_eq_map (items : List Json) :
    mapFloatsOfItems f items = items.map (mapFloats f) := by
  induction items with
  | nil => rfl
  | cons first rest ih => rw [mapFloatsOfItems, ih, List.map_cons]

theorem mapFloatsOfFields_eq_map (fields : List (String × Json)) :
    mapFloatsOfFields f fields = fields.map fun field => (field.1, mapFloats f field.2) := by
  induction fields with
  | nil => rfl
  | cons first rest ih => rw [mapFloatsOfFields, ih, List.map_cons]

@[simp]
theorem mapFloats_bool (value : Bool) : mapFloats f (.bool value) = .bool value :=
  rfl

@[simp]
theorem mapFloats_str (text : String) : mapFloats f (.str text) = .str text :=
  rfl

@[simp]
theorem mapFloats_arr (items : List Json) :
    mapFloats f (.arr items) = .arr (items.map (mapFloats f)) := by
  rw [mapFloats, mapFloatsOfItems_eq_map]

@[simp]
theorem mapFloats_obj (fields : List (String × Json)) :
    mapFloats f (.obj fields) = .obj (fields.map fun field => (field.1, mapFloats f field.2)) := by
  rw [mapFloats, mapFloatsOfFields_eq_map]

@[simp]
theorem mapFloats_fieldWhen (condition : Bool) (name : String) (value : Json) :
    (fieldWhen condition name value).map (fun field => (field.1, mapFloats f field.2)) =
      fieldWhen condition name (mapFloats f value) := by
  cases condition <;> rfl

@[simp]
theorem mapFloats_optionalWord (name : String) (number? : Option UInt32) :
    (optionalField name word number?).map (fun field => (field.1, mapFloats f field.2)) =
      optionalField name word number? := by
  cases number? <;> rfl

end Parts

end Json

/-- The table with a function applied to its values. -/
def Keyed.map {α β : Type} (f : α → β) (table : Keyed α) : Keyed β where
  entries := table.entries.map fun entry => (entry.1, f entry.2)
  ascending := List.pairwise_map.mpr table.ascending

/-- The conditions with a function applied to the numbers with a fraction in their clauses. -/
def BoolQuery.mapFloats (f : Binary64 → Binary64) (query : BoolQuery) : BoolQuery where
  must := query.must.map (Json.mapFloats f)
  filter := query.filter.map (Json.mapFloats f)
  should := query.should.map (Json.mapFloats f)
  mustNot := query.mustNot.map (Json.mapFloats f)
  minimumShouldMatch := query.minimumShouldMatch

/-- The body with a function applied to the numbers with a fraction in its clauses and
aggregations. -/
def SearchBody.mapFloats (f : Binary64 → Binary64) (body : SearchBody) : SearchBody :=
  { body with
    query := body.query.mapFloats f
    aggregations := body.aggregations.map (Json.mapFloats f) }

theorem BoolQuery.toJson_mapFloats (f : Binary64 → Binary64) (query : BoolQuery) :
    (query.mapFloats f).toJson = query.toJson.mapFloats f := by
  simp [toJson, mapFloats, clauseField]

theorem SortKey.mapFloats_requestJson (f : Binary64 → Binary64) (key : SortKey) :
    key.requestJson.mapFloats f = key.requestJson := by
  simp [requestJson]

/-- Changing the numbers before or after rendering comes to the same. -/
theorem SearchBody.toJson_mapFloats (f : Binary64 → Binary64) (body : SearchBody) :
    (body.mapFloats f).toJson = body.toJson.mapFloats f := by
  have hSort : (body.sort.map SortKey.requestJson).map (Json.mapFloats f) =
      body.sort.map SortKey.requestJson := by
    simp [SortKey.mapFloats_requestJson]
  simp [toJson, mapFloats, BoolQuery.toJson_mapFloats, Keyed.map, Keyed.isEmpty, Json.keyed,
    -List.map_map, hSort]

/-- Nothing is lost when a body is rendered.  Each of its parts stands in the JSON form under a name
of its own, in its order, and a name is missing exactly if its part is absent or empty; so two
bodies are rendered alike only if they are the same.  The same holds to a reader who tells numbers
with a fraction apart no further than some function of them does. -/
theorem SearchBody.rendering_exact (body other : SearchBody) :
    body.ShownIn body.toJson ∧ (body.toJson = other.toJson ↔ body = other) ∧
      ∀ f : Binary64 → Binary64, body.toJson.mapFloats f = other.toJson.mapFloats f ↔
        body.mapFloats f = other.mapFloats f := by
  refine ⟨body.shownIn_toJson, toJson_injective.eq_iff, fun f => ?_⟩
  rw [← toJson_mapFloats, ← toJson_mapFloats, toJson_injective.eq_iff]

end LogSearch
