import LogSearch.Proofs.ReadBackQueries
import LogSearch.Proofs.Records

/-!
# Which values are filters

`Filter.Spells` is the grammar of filters, without regard to how they are read: a record
whose tag names a kind, with texts, nulls or nothing in the three fields for texts, is
an inner node if its list of children is not empty and every child spells a filter, and
a leaf if it has no children and its own text is not empty.  What it spells has the
shape of the value, up to children that repeat an earlier sibling.

Reading accepts this grammar and no more (`ofJson_eq_ok_iff_spells`).  What is written of
a well-formed filter is in the grammar exactly if its leaves have texts, and spells the
filter itself.
-/

namespace LogSearch

open Json

namespace Filter

/-! ### Tags -/

/-- The tag of an inner node, and the node over its children. -/
def TagsInner (tag : String) (node : List Filter → Filter) : Prop :=
  (tag = "and" ∧ node = .and) ∨ (tag = "or" ∧ node = .or)

/-- The tag of a leaf, the field that its text stands in, and the leaf with a text. -/
def TagsLeaf (tag field : String) (node : String → Filter) : Prop :=
  (tag = "stream" ∧ field = "id" ∧ node = .stream) ∨
    (tag = "stream_category" ∧ field = "category" ∧ node = .category) ∨
    (tag = "query_string" ∧ field = "query" ∧ node = .queryString)

/-- The fields of a filter, in the order in which an array lists them. -/
def fieldNames : List String := ["type", "filters", "id", "category", "query"]

/-- The fields of a filter that hold a text. -/
def textNames : List String := ["id", "category", "query"]

theorem mem_textNames_of_tagsLeaf {tag field : String} {node : String → Filter}
    (h : TagsLeaf tag field node) : field ∈ textNames := by
  rcases h with ⟨-, rfl, -⟩ | ⟨-, rfl, -⟩ | ⟨-, rfl, -⟩ <;> decide

theorem field_eq_of_tagsLeaf {tag field other : String} {node another : String → Filter}
    (h : TagsLeaf tag field node) (hOther : TagsLeaf tag other another) : field = other := by
  rcases h with ⟨rfl, rfl, -⟩ | ⟨rfl, rfl, -⟩ | ⟨rfl, rfl, -⟩ <;>
    (simp [TagsLeaf] at hOther; exact hOther.1.symm)

/-! ### Siblings -/

/-- What is kept of siblings if those that equal an earlier one are dropped, given some that come
before all of them. -/
inductive DropsRepeats : (earlier siblings kept : List Filter) → Prop
  | nil {earlier : List Filter} : DropsRepeats earlier [] []
  | repeated {earlier rest kept : List Filter} {sibling : Filter} (hSeen : sibling ∈ earlier)
      (hRest : DropsRepeats earlier rest kept) : DropsRepeats earlier (sibling :: rest) kept
  | new {earlier rest kept : List Filter} {sibling : Filter} (hNew : sibling ∉ earlier)
      (hRest : DropsRepeats (sibling :: earlier) rest kept) :
      DropsRepeats earlier (sibling :: rest) (sibling :: kept)

theorem dropsRepeats_cons_of_mem {earlier rest kept : List Filter} {sibling : Filter}
    (h : sibling ∈ earlier) :
    DropsRepeats earlier (sibling :: rest) kept ↔ DropsRepeats earlier rest kept := by
  constructor
  · intro hDrops
    cases hDrops with
    | repeated _ hRest => exact hRest
    | new hNew _ => contradiction
  · exact .repeated h

theorem dropsRepeats_cons_of_not_mem {earlier rest kept : List Filter} {sibling : Filter}
    (h : sibling ∉ earlier) :
    DropsRepeats earlier (sibling :: rest) kept ↔
      ∃ others, kept = sibling :: others ∧ DropsRepeats (sibling :: earlier) rest others := by
  constructor
  · intro hDrops
    cases hDrops with
    | repeated hSeen _ => contradiction
    | new _ hRest => exact ⟨_, rfl, hRest⟩
  · rintro ⟨others, rfl, hRest⟩
    exact .new h hRest

theorem dropsRepeats_iff {earlier siblings kept : List Filter} :
    DropsRepeats earlier siblings kept ↔ kept = (distinct siblings).filter (· ∉ earlier) := by
  induction siblings generalizing earlier kept with
  | nil =>
    constructor
    · rintro ⟨⟩
      rfl
    · rintro rfl
      exact .nil
  | cons first rest ih =>
    rw [distinct]
    by_cases hSeen : first ∈ earlier
    · -- dropping the earlier ones drops the first one with all that equal it
      have hSame : ((distinct rest).filter (· ≠ first)).filter (· ∉ earlier) =
          (distinct rest).filter (· ∉ earlier) := by
        rw [List.filter_filter]
        refine List.filter_congr fun other _ => ?_
        by_cases hOther : other = first <;> simp [hOther, hSeen]
      rw [dropsRepeats_cons_of_mem hSeen, ih, List.filter_cons_of_neg (by simpa using hSeen), hSame]
    · have hSplit : ((distinct rest).filter (· ≠ first)).filter (· ∉ earlier) =
          (distinct rest).filter (· ∉ first :: earlier) := by
        rw [List.filter_filter]
        refine List.filter_congr fun other _ => ?_
        simp [Bool.and_comm]
      rw [dropsRepeats_cons_of_not_mem hSeen, List.filter_cons_of_pos (by simpa using hSeen),
        hSplit]
      simp only [ih, exists_eq_right]

theorem dropsRepeats_nil_iff {siblings kept : List Filter} :
    DropsRepeats [] siblings kept ↔ kept = distinct siblings := by
  simp [dropsRepeats_iff]

/-! ### The grammar -/

/-- The value is a record whose tag is the given one and which has nothing but texts in the fields
for texts, whether or not its kind uses them. -/
structure HasTag (value : Json) (tag : String) : Prop where
  record : value.IsRecord fieldNames
  tag : value.part? fieldNames "type" = some (.str tag)
  texts : ∀ name ∈ textNames, MayBeText (value.part? fieldNames name)

/-- The filter that a value spells. -/
inductive Spells : Json → Filter → Prop
  | inner {value : Json} {tag : String} {node : List Filter → Filter} {items : List Json}
      {children kept : List Filter} {filter : Filter} (hTag : HasTag value tag)
      (hNode : TagsInner tag node)
      (hItems : value.part? fieldNames "filters" = some (.arr items)) (hNonempty : items ≠ [])
      (hEach : List.Forall₂ Spells items children) (hKept : DropsRepeats [] children kept)
      (hFilter : filter = node kept) : Spells value filter
  | leaf {value : Json} {tag field text : String} {node : String → Filter} {filter : Filter}
      (hTag : HasTag value tag) (hNode : TagsLeaf tag field node)
      (hItems : value.part? fieldNames "filters" = none ∨
        value.part? fieldNames "filters" = some .null ∨
        value.part? fieldNames "filters" = some (.arr []))
      (hText : value.part? fieldNames field = some (.str text)) (hNonempty : text ≠ "")
      (hFilter : filter = node text) : Spells value filter

/-! ### Reading -/

/-- The text that has been read from a field. -/
def Parts.text? (parts : Parts) (field : String) : Option String :=
  match field with
  | "id" => parts.id
  | "category" => parts.category
  | "query" => parts.query
  | _ => none

theorem ofParts_eq_ok_iff {parts : Parts} {filter : Filter} :
    ofParts parts = .ok filter ↔
      (∃ node, TagsInner parts.tag node ∧ parts.filters.getD [] ≠ [] ∧
        filter = node (distinct (parts.filters.getD []))) ∨
      ∃ field node, TagsLeaf parts.tag field node ∧ parts.filters.getD [] = [] ∧
        ∃ text, parts.text? field = some text ∧ text ≠ "" ∧ filter = node text := by
  constructor
  · intro h
    unfold ofParts at h
    split at h
    · contradiction
    · next kind hKind =>
      have hTag : kind.tag = parts.tag := by simpa using List.find?_some hKind
      cases kind with
      | and => exact .inl ⟨.and, .inl ⟨hTag.symm, rfl⟩, and?_eq_ok_iff.mp h⟩
      | or => exact .inl ⟨.or, .inr ⟨hTag.symm, rfl⟩, or?_eq_ok_iff.mp h⟩
      | stream =>
        exact .inr ⟨"id", .stream, .inl ⟨hTag.symm, rfl, rfl⟩, leaf_eq_ok_iff.mp h⟩
      | streamCategory =>
        exact .inr ⟨"category", .category, .inr (.inl ⟨hTag.symm, rfl, rfl⟩), leaf_eq_ok_iff.mp h⟩
      | queryString =>
        exact .inr ⟨"query", .queryString, .inr (.inr ⟨hTag.symm, rfl, rfl⟩), leaf_eq_ok_iff.mp h⟩
  · rintro (⟨node, ⟨hTag, rfl⟩ | ⟨hTag, rfl⟩, hFilter⟩ |
      ⟨field, node, ⟨hTag, rfl, rfl⟩ | ⟨hTag, rfl, rfl⟩ | ⟨hTag, rfl, rfl⟩, hFilter⟩)
    · rw [ofParts, hTag]
      exact and?_eq_ok_iff.mpr hFilter
    · rw [ofParts, hTag]
      exact or?_eq_ok_iff.mpr hFilter
    · rw [ofParts, hTag]
      exact leaf_eq_ok_iff.mpr hFilter
    · rw [ofParts, hTag]
      exact leaf_eq_ok_iff.mpr hFilter
    · rw [ofParts, hTag]
      exact leaf_eq_ok_iff.mpr hFilter

/-- What the fields of a record say, as they are read; the children are read beforehand. -/
theorem asRecord_eq_ok_iff {value : Json} {children : Attempt (Option (List Filter))}
    {parts : Parts} :
    value.asRecord (fields children) {} = .ok parts ↔
      value.IsRecord fieldNames ∧ value.part? fieldNames "type" = some (.str parts.tag) ∧
        Says (value.part? fieldNames "filters") (fun _ => children) none parts.filters ∧
        ∀ name ∈ textNames,
          Says (value.part? fieldNames name) (asOption asText) none (parts.text? name) := by
  simp only [textNames, List.forall_mem_cons]
  cases value with
  | obj entries =>
    rw [asRecord_obj_eq_ok_iff]
    -- the fields depend on the children, so that their order has to be computed by rewriting
    simp only [sortFields, fields, List.foldr_cons, List.foldr_nil, insertField, String.reduceLT,
      if_true, if_false]
    constructor
    · rintro ⟨hRead, hRequired⟩
      obtain ⟨category, hCategory, hRead⟩ := (readPresent_set_eq_ok_iff rfl).mp hRead
      obtain ⟨filters, hFilters, hRead⟩ := (readPresent_set_eq_ok_iff rfl).mp hRead
      obtain ⟨id, hId, hRead⟩ := (readPresent_set_eq_ok_iff rfl).mp hRead
      obtain ⟨query, hQuery, hRead⟩ := (readPresent_set_eq_ok_iff rfl).mp hRead
      obtain ⟨tag, hTag, hRead⟩ := (readPresent_set_eq_ok_iff rfl).mp hRead
      obtain rfl := Except.ok.inj hRead
      have hThere : entries.lookup "type" ≠ none := hRequired _ List.mem_cons_self rfl
      exact ⟨trivial, says_required_text_iff.mp ⟨hThere, hTag⟩, hFilters, hId, hCategory, hQuery,
        by simp⟩
    · rintro ⟨-, hTag, hFilters, hId, hCategory, hQuery, -⟩
      obtain ⟨hThere, hText⟩ := says_required_text_iff.mpr hTag
      have hThere : entries.lookup "type" ≠ none := hThere
      refine ⟨?_, by simp [hThere, -List.lookup_eq_none_iff]⟩
      refine (readPresent_set_eq_ok_iff rfl).mpr ⟨_, hCategory, ?_⟩
      refine (readPresent_set_eq_ok_iff rfl).mpr ⟨_, hFilters, ?_⟩
      refine (readPresent_set_eq_ok_iff rfl).mpr ⟨_, hId, ?_⟩
      refine (readPresent_set_eq_ok_iff rfl).mpr ⟨_, hQuery, ?_⟩
      exact (readPresent_set_eq_ok_iff rfl).mpr ⟨_, hText, rfl⟩
  | arr items =>
    show readInOrder _ (items.drop 0) _ = _ ↔ _
    constructor
    · intro hRead
      obtain ⟨hRequired, tag, hTag, hRead⟩ := (readInOrder_set_eq_ok_iff rfl).mp hRead
      obtain ⟨-, filters, hFilters, hRead⟩ := (readInOrder_set_eq_ok_iff rfl).mp hRead
      obtain ⟨-, id, hId, hRead⟩ := (readInOrder_set_eq_ok_iff rfl).mp hRead
      obtain ⟨-, category, hCategory, hRead⟩ := (readInOrder_set_eq_ok_iff rfl).mp hRead
      obtain ⟨-, query, hQuery, hRead⟩ := (readInOrder_set_eq_ok_iff rfl).mp hRead
      obtain ⟨hLength, rfl⟩ := readInOrder_nil_eq_ok_iff.mp hRead
      exact ⟨hLength, says_required_text_iff.mp ⟨hRequired rfl, hTag⟩, hFilters, hId, hCategory,
        hQuery, by simp⟩
    · rintro ⟨hLength, hTag, hFilters, hId, hCategory, hQuery, -⟩
      obtain ⟨hThere, hText⟩ := says_required_text_iff.mpr hTag
      refine (readInOrder_set_eq_ok_iff rfl).mpr ⟨fun _ => hThere, _, hText, ?_⟩
      refine (readInOrder_set_eq_ok_iff rfl).mpr ⟨by simp, _, hFilters, ?_⟩
      refine (readInOrder_set_eq_ok_iff rfl).mpr ⟨by simp, _, hId, ?_⟩
      refine (readInOrder_set_eq_ok_iff rfl).mpr ⟨by simp, _, hCategory, ?_⟩
      refine (readInOrder_set_eq_ok_iff rfl).mpr ⟨by simp, _, hQuery, ?_⟩
      exact readInOrder_nil_eq_ok_iff.mpr ⟨hLength, rfl⟩
  | null => simp [asRecord, IsRecord, fail]
  | bool value => simp [asRecord, IsRecord, fail]
  | int value => simp [asRecord, IsRecord, fail]
  | float value => simp [asRecord, IsRecord, fail]
  | str text => simp [asRecord, IsRecord, fail]

theorem childrenOfFields_eq (entries : List (String × Json)) :
    childrenOfFields entries = ((entries.lookup "filters").map childrenOf).getD (.ok none) := by
  induction entries with
  | nil => rfl
  | cons first rest ih =>
    rw [childrenOfFields, List.lookup_cons]
    by_cases hName : first.1 = "filters"
    · simp [hName]
    · have hOther : ("filters" == first.1) = false := beq_false_of_ne (Ne.symm hName)
      rw [if_neg hName, hOther, ih]

theorem childrenOfItems_eq (items : List Json) :
    childrenOfItems items = (items[1]?.map childrenOf).getD (.ok none) := by
  unfold childrenOfItems
  split
  · rfl
  · next hShort =>
    match items with
    | [] => rfl
    | [_] => rfl
    | first :: second :: rest => exact absurd rfl (hShort first second rest)

theorem childrenOf_eq_ok_iff {value : Json} {children? : Option (List Filter)} :
    childrenOf value = .ok children? ↔
      (value = .null ∧ children? = none) ∨
        ∃ items children, value = .arr items ∧ children? = some children ∧
          List.Forall₂ (fun item child => ofJson item = .ok child) items children := by
  cases value with
  | arr items =>
    rw [childrenOf, listOfJson_eq_mapM]
    simp only [map_eq_ok, mapM_eq_ok_iff, reduceCtorEq, false_and, false_or, Json.arr.injEq]
    grind
  | null => simp [childrenOf, eq_comm]
  | bool value => simp [childrenOf, fail]
  | int value => simp [childrenOf, fail]
  | float value => simp [childrenOf, fail]
  | str text => simp [childrenOf, fail]
  | obj fields => simp [childrenOf, fail]

theorem says_children_iff {value? : Option Json} {children? : Option (List Filter)} :
    Says value? childrenOf none children? ↔
      ((value? = none ∨ value? = some .null) ∧ children? = none) ∨
        ∃ items children, value? = some (.arr items) ∧ children? = some children ∧
          List.Forall₂ (fun item child => ofJson item = .ok child) items children := by
  cases value? with
  | none => simp [says_none]
  | some value => simp [says_some, childrenOf_eq_ok_iff]

/-- The children are read from what the record holds for them. -/
theorem says_const_iff {value? : Option Json} {children : Attempt (Option (List Filter))}
    {children? : Option (List Filter)}
    (h : children = (value?.map childrenOf).getD (.ok none)) :
    Says value? (fun _ => children) none children? ↔ Says value? childrenOf none children? := by
  cases value? with
  | none => rw [says_none, says_none]
  | some value => rw [says_some, says_some, h, Option.map_some, Option.getD_some]

theorem ofJson_eq_ok_iff {value : Json} {filter : Filter} :
    ofJson value = .ok filter ↔
      ∃ parts : Parts, HasTag value parts.tag ∧
        Says (value.part? fieldNames "filters") childrenOf none parts.filters ∧
        (∀ name ∈ textNames, parts.text? name = heldText? (value.part? fieldNames name)) ∧
        ofParts parts = .ok filter := by
  have hRecord {children : Attempt (Option (List Filter))} (hChildren : children =
      ((value.part? fieldNames "filters").map childrenOf).getD (.ok none)) {parts : Parts} :
      value.asRecord (fields children) {} = .ok parts ↔
        HasTag value parts.tag ∧
          Says (value.part? fieldNames "filters") childrenOf none parts.filters ∧
          ∀ name ∈ textNames, parts.text? name = heldText? (value.part? fieldNames name) := by
    rw [asRecord_eq_ok_iff, says_const_iff hChildren]
    simp only [says_text_iff]
    constructor
    · rintro ⟨hRecord, hTag, hFilters, hTexts⟩
      exact ⟨⟨hRecord, hTag, fun name hName => (hTexts name hName).1⟩, hFilters,
        fun name hName => (hTexts name hName).2⟩
    · rintro ⟨⟨hRecord, hTag, hTexts⟩, hFilters, hSame⟩
      exact ⟨hRecord, hTag, hFilters, fun name hName => ⟨hTexts name hName, hSame name hName⟩⟩
  cases value with
  | obj entries =>
    simp only [ofJson, bind_eq_ok, hRecord (childrenOfFields_eq entries), and_assoc]
  | arr items =>
    simp only [ofJson, bind_eq_ok, hRecord (childrenOfItems_eq items), and_assoc]
  | _ =>
    constructor
    · intro h
      simp [ofJson, fail] at h
    · rintro ⟨parts, hTag, -⟩
      exact hTag.record.elim

/-! ### The grammar is what is read -/

/-- The parts that a record holds, given its children. -/
def partsOf (value : Json) (tag : String) (children? : Option (List Filter)) : Parts where
  tag := tag
  filters := children?
  id := heldText? (value.part? fieldNames "id")
  category := heldText? (value.part? fieldNames "category")
  query := heldText? (value.part? fieldNames "query")

theorem text?_partsOf (value : Json) (tag : String) (children? : Option (List Filter)) :
    ∀ name ∈ textNames,
      (partsOf value tag children?).text? name = heldText? (value.part? fieldNames name) := by
  simp [textNames, partsOf, Parts.text?]

section Step

variable {value : Json} (hItems : ∀ items, value.part? fieldNames "filters" = some (.arr items) →
  ∀ item ∈ items, ∀ child, ofJson item = .ok child ↔ Spells item child)
include hItems

theorem spells_of_ofJson {filter : Filter} (h : ofJson value = .ok filter) :
    Spells value filter := by
  obtain ⟨parts, hTag, hFilters, hTexts, hFilter⟩ := ofJson_eq_ok_iff.mp h
  rcases ofParts_eq_ok_iff.mp hFilter with ⟨node, hNode, hNonempty, hSame⟩ |
    ⟨field, node, hNode, hNone, text, hText, hNonempty, hSame⟩
  · rcases says_children_iff.mp hFilters with ⟨-, hRead⟩ | ⟨items, children, hList, hRead, hEach⟩
    · simp [hRead] at hNonempty
    · rw [hRead, Option.getD_some] at hNonempty hSame
      have hSpells : List.Forall₂ Spells items children :=
        forall₂_imp_of_mem (fun item hItem => (hItems items hList item hItem _).mp) hEach
      have hSome : items ≠ [] := by
        rintro rfl
        cases hSpells
        contradiction
      exact .inner hTag hNode hList hSome hSpells (dropsRepeats_nil_iff.mpr rfl) hSame
  · have hEmpty : value.part? fieldNames "filters" = none ∨
        value.part? fieldNames "filters" = some .null ∨
        value.part? fieldNames "filters" = some (.arr []) := by
      rcases says_children_iff.mp hFilters with ⟨hMissing, -⟩ |
        ⟨items, children, hList, hRead, hEach⟩
      · exact hMissing.imp_right .inl
      · rw [hRead, Option.getD_some] at hNone
        subst hNone
        cases hEach
        exact .inr (.inr hList)
    rw [hTexts field (mem_textNames_of_tagsLeaf hNode), heldText?_eq_some_iff] at hText
    exact .leaf hTag hNode hEmpty hText hNonempty hSame

theorem ofJson_of_spells {filter : Filter} (h : Spells value filter) :
    ofJson value = .ok filter := by
  cases h with
  | @inner _ tag node items children kept _ hTag hNode hList hNonempty hEach hKept hSame =>
    have hRead : List.Forall₂ (fun item child => ofJson item = .ok child) items children :=
      forall₂_imp_of_mem (fun item hItem => (hItems items hList item hItem _).mpr) hEach
    have hSome : children ≠ [] := by
      rintro rfl
      cases hEach
      contradiction
    rw [dropsRepeats_nil_iff.mp hKept] at hSame
    exact ofJson_eq_ok_iff.mpr ⟨partsOf value tag (some children), hTag,
      says_children_iff.mpr (.inr ⟨items, children, hList, rfl, hRead⟩), text?_partsOf _ _ _,
      ofParts_eq_ok_iff.mpr (.inl ⟨node, hNode, hSome, hSame⟩)⟩
  | @leaf _ tag field text node _ hTag hNode hList hText hNonempty hSame =>
    obtain ⟨children?, hNone, hSays⟩ : ∃ children? : Option (List Filter), children?.getD [] = [] ∧
        Says (value.part? fieldNames "filters") childrenOf none children? := by
      rcases hList with hMissing | hNull | hEmpty
      · exact ⟨none, rfl, says_children_iff.mpr (.inl ⟨.inl hMissing, rfl⟩)⟩
      · exact ⟨none, rfl, says_children_iff.mpr (.inl ⟨.inr hNull, rfl⟩)⟩
      · exact ⟨some [], rfl, says_children_iff.mpr (.inr ⟨[], [], hEmpty, rfl, .nil⟩)⟩
    have hField : field ∈ textNames := mem_textNames_of_tagsLeaf hNode
    have hHeld : (partsOf value tag children?).text? field = some text := by
      rw [text?_partsOf _ _ _ field hField, heldText?_eq_some_iff, hText]
    exact ofJson_eq_ok_iff.mpr ⟨partsOf value tag children?, hTag, hSays, text?_partsOf _ _ _,
      ofParts_eq_ok_iff.mpr (.inr ⟨field, node, hNode, hNone, text, hHeld, hNonempty, hSame⟩)⟩

end Step

theorem ofJson_eq_ok_iff_spells {value : Json} {filter : Filter} :
    ofJson value = .ok filter ↔ Spells value filter := by
  -- the children are the items of a value that the record holds, so the induction has to carry the
  -- statement for the items of a value along with the one for the value
  have hBoth : (∀ filter, ofJson value = .ok filter ↔ Spells value filter) ∧
      ∀ items, value = .arr items →
        ∀ item ∈ items, ∀ child, ofJson item = .ok child ↔ Spells item child := by
    clear filter
    have hStep {value : Json} (hItems : ∀ items,
        value.part? fieldNames "filters" = some (.arr items) →
          ∀ item ∈ items, ∀ child, ofJson item = .ok child ↔ Spells item child) (filter : Filter) :
        ofJson value = .ok filter ↔ Spells value filter :=
      ⟨spells_of_ofJson hItems, ofJson_of_spells hItems⟩
    induction value with
    | arr others ih =>
      refine ⟨hStep fun items hItems => ?_, ?_⟩
      · exact (ih _ (List.mem_of_getElem? hItems)).2 items rfl
      · rintro items ⟨⟩ item hItem
        exact (ih item hItem).1
    | obj entries ih =>
      refine ⟨hStep fun items hItems => ?_, fun items h => by contradiction⟩
      obtain ⟨before, after, rfl, -⟩ := List.lookup_eq_some_iff.mp hItems
      exact (ih ("filters", .arr items) (by simp)).2 items rfl
    | null => exact ⟨hStep fun items h => by contradiction, fun items h => by contradiction⟩
    | bool flag => exact ⟨hStep fun items h => by contradiction, fun items h => by contradiction⟩
    | int n => exact ⟨hStep fun items h => by contradiction, fun items h => by contradiction⟩
    | float x => exact ⟨hStep fun items h => by contradiction, fun items h => by contradiction⟩
    | str text => exact ⟨hStep fun items h => by contradiction, fun items h => by contradiction⟩
  exact hBoth.1 filter

/-! ### What is written -/

theorem listToJson_eq_map (filters : List Filter) : listToJson filters = filters.map toJson := by
  induction filters with
  | nil => rfl
  | cons first rest ih => rw [listToJson, ih, List.map_cons]

theorem spells_items {tag : String} {items : List Json} {filter : Filter}
    (h : Spells (.obj [("type", .str tag), ("filters", .arr items)]) filter) :
    ∀ item ∈ items, ∃ child, Spells item child := by
  intro item hItem
  cases h with
  | inner hTag hNode hList hNonempty hEach hKept hSame =>
    obtain rfl := Json.arr.inj (Option.some.inj hList)
    obtain ⟨place, hPlace⟩ := List.mem_iff_getElem?.mp hItem
    obtain ⟨child, -, hChild⟩ := exists_getElem?_of_forall₂ hEach hPlace
    exact ⟨child, hChild⟩
  | leaf hTag hNode hList =>
    rcases hList with hMissing | hNull | hEmpty
    · contradiction
    · cases Option.some.inj hNull
    · obtain rfl := Json.arr.inj (Option.some.inj hEmpty)
      contradiction

theorem text_ne_empty_of_spells {tag field text : String} {node : String → Filter} {filter : Filter}
    (hNode : TagsLeaf tag field node)
    (h : Spells (.obj [("type", .str tag), (field, .str text), ("filters", .null)]) filter) :
    text ≠ "" := by
  have hHeld {name : String} (hName : name = field) :
      (Json.obj [("type", .str tag), (field, .str text), ("filters", .null)]).part?
        fieldNames name = some (.str text) := by
    rcases hNode with ⟨-, rfl, -⟩ | ⟨-, rfl, -⟩ | ⟨-, rfl, -⟩ <;> subst hName <;> rfl
  have hNull : (Json.obj [("type", .str tag), (field, .str text), ("filters", .null)]).part?
      fieldNames "filters" = some .null := by
    rcases hNode with ⟨-, rfl, -⟩ | ⟨-, rfl, -⟩ | ⟨-, rfl, -⟩ <;> rfl
  cases h with
  | inner hTag hOther hList =>
    rw [hNull] at hList
    cases Option.some.inj hList
  | leaf hTag hOther hList hText hNonempty hSame =>
    obtain rfl := Json.str.inj (Option.some.inj hTag.tag)
    rw [hHeld (field_eq_of_tagsLeaf hOther hNode)] at hText
    obtain rfl := Json.str.inj (Option.some.inj hText)
    exact hNonempty

/-- What is written of a filter only spells one if all leaves have texts. -/
theorem labelled_of_spells_toJson {filter read : Filter} (h : Spells filter.toJson read) :
    filter.Labelled := by
  induction filter generalizing read with
  | and children ih =>
    rw [toJson, listToJson_eq_map] at h
    refine .and fun child hChild => ?_
    obtain ⟨found, hFound⟩ := spells_items h _ (List.mem_map_of_mem hChild)
    exact ih child hChild hFound
  | or children ih =>
    rw [toJson, listToJson_eq_map] at h
    refine .or fun child hChild => ?_
    obtain ⟨found, hFound⟩ := spells_items h _ (List.mem_map_of_mem hChild)
    exact ih child hChild hFound
  | stream id => exact .stream (text_ne_empty_of_spells (.inl ⟨rfl, rfl, rfl⟩) h)
  | category name => exact .category (text_ne_empty_of_spells (.inr (.inl ⟨rfl, rfl, rfl⟩)) h)
  | queryString query =>
    exact .queryString (text_ne_empty_of_spells (.inr (.inr ⟨rfl, rfl, rfl⟩)) h)

/-- A value is read as the filter that it spells and not at all if it spells none.  What is written
of a well-formed filter is read exactly if its leaves have texts, and then as the filter. -/
theorem ofJson_exact :
    (∀ value filter, ofJson value = .ok filter ↔ Spells value filter) ∧
      ∀ filter : Filter, filter.WellFormed →
        ∀ read, ofJson filter.toJson = .ok read ↔ filter.Labelled ∧ read = filter := by
  refine ⟨fun value filter => ofJson_eq_ok_iff_spells, fun filter hWellFormed read => ?_⟩
  constructor
  · intro hRead
    have hLabelled := labelled_of_spells_toJson (ofJson_eq_ok_iff_spells.mp hRead)
    rw [ofJson_toJson hWellFormed hLabelled] at hRead
    exact ⟨hLabelled, (Except.ok.inj hRead).symm⟩
  · rintro ⟨hLabelled, rfl⟩
    exact ofJson_toJson hWellFormed hLabelled

/-- Siblings that differ as values may spell the same filter. -/
example :
    let leaf := Json.obj [("type", .str "stream"), ("id", .str "front")]
    let node (items : List Json) := Json.obj [("filters", .arr items), ("type", .str "and")]
    ofJson (node [node [leaf, leaf], node [leaf]]) = .ok (.and [.and [.stream "front"]]) := by
  rfl

end Filter

end LogSearch
