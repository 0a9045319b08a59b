import LogSearch.Request.Context
import LogSearch.Proofs.FilterMeaning
import LogSearch.Proofs.ReadBack
import LogSearch.Proofs.Timestamp

/-!
# What clauses mean

Clauses are read the way the backend reads them, as JSON and for one document at
a time.  A clause is an object with a single field, its kind.  All kinds but one
are leaves; the kind `bool` takes clauses in sections and asks that all of
`must` and `filter` hold, that none of `must_not` does, and that enough of
`should` do.  How many are enough may be said; otherwise it is one if there is
nothing that must hold, and none if there is.  A section is a list of clauses or
a single clause, and one that is left out is empty.

Only the leaves that requests use are given a meaning, and no other clause holds.
-/

namespace LogSearch

/-- A document, as far as clauses ask about it. -/
structure Document where
  /-- The values of a field. -/
  values : String → List String
  /-- The instant in a field. -/
  instant? : String → Option Instant
  /-- Whether the document matches a query text. -/
  matchesText : String → Bool

namespace Document

/-- Whether the document is in a stream. -/
def inStream (layout : IndexLayout) (document : Document) (id : String) : Bool :=
  (document.values layout.streamsField).contains id

/-- What the document says of the leaves of filters, given whether it is in a category. -/
def reading (layout : IndexLayout) (inCategory : String → Bool) (document : Document) :
    Filter.Reading where
  inStream := document.inStream layout
  inCategory := inCategory
  matchesText := document.matchesText

end Document

namespace Clause

/-! ### Leaves -/

/-- A clause that contains no other. -/
structure Leaf where
  kind : String
  parts : List (String × Json)

namespace Leaf

/-- Whether an instant respects a bound of a range. -/
def respects (t : Instant) : String × Json → Bool
  | ("gte", .str text) => (Instant.read? text).any fun limit => decide (limit ≤ t)
  | ("lte", .str text) => (Instant.read? text).any fun limit => decide (t ≤ limit)
  | _ => false

/-- Whether a document satisfies a leaf. -/
def holds (document : Document) : Leaf → Bool
  | ⟨"match_all", _⟩ => true
  | ⟨"query_string", parts⟩ => match parts.lookup "query" with
    | some (.str text) => document.matchesText text
    | _ => false
  | ⟨"term", [(field, .str value)]⟩ => (document.values field).contains value
  | ⟨"terms", [(field, .arr values)]⟩ => values.any fun value => match value with
    | .str text => (document.values field).contains text
    | _ => false
  | ⟨"range", [(field, .obj bounds)]⟩ =>
    (document.instant? field).any fun t => bounds.all (respects t)
  | _ => false

/-- The values that a leaf asks for in some fields. -/
def valuesIn (fields : List String) : Leaf → List String
  | ⟨"term", [(field, .str value)]⟩ => if field ∈ fields then [value] else []
  | ⟨"terms", [(field, .arr values)]⟩ =>
    if field ∈ fields then
      values.filterMap fun value => match value with
        | .str text => some text
        | _ => none
    else []
  | _ => []

end Leaf

/-! ### Compound clauses -/

/-- The verdicts in a section. -/
def under (name : String) (verdicts : List (String × Bool)) : List Bool :=
  (verdicts.filter (·.1 == name)).map Prod.snd

/-- Whether a document satisfies a compound clause, by the verdicts on the clauses in its sections
and the number of clauses that should hold at least. -/
def combine (least : Option Nat) (verdicts : List (String × Bool)) : Bool :=
  let required := under "must" verdicts ++ under "filter" verdicts
  let wanted := under "should" verdicts
  -- clauses that should hold count for nothing but the ranking beside one that must
  let enough := least.getD (if required.isEmpty && !wanted.isEmpty then 1 else 0)
  required.all id && !(under "must_not" verdicts).any id && decide (enough ≤ wanted.count true)

/-- The number of clauses that should hold, where it is said. -/
def least? (sections : List (String × Json)) : Option Nat :=
  (sections.lookup "minimum_should_match").bind Json.unsigned?

mutual

/-- Whether a document satisfies a clause. -/
def holds (document : Document) : Json → Bool
  | .obj [(kind, .obj parts)] =>
    if kind = "bool" then combine (least? parts) (sectionVerdicts document parts)
    else Leaf.holds document ⟨kind, parts⟩
  | _ => false

/-- The verdicts on the clauses of all sections, each with the name of its section. -/
def sectionVerdicts (document : Document) : List (String × Json) → List (String × Bool)
  | [] => []
  | (name, .arr clauses) :: rest =>
    (verdicts document clauses).map (fun verdict => (name, verdict))
      ++ sectionVerdicts document rest
  | (name, clause) :: rest => (name, holds document clause) :: sectionVerdicts document rest

/-- The verdicts on a list of clauses. -/
def verdicts (document : Document) : List Json → List Bool
  | [] => []
  | first :: rest => holds document first :: verdicts document rest

end

mutual

/-- The leaves of a clause, at any depth. -/
def leaves : Json → List Leaf
  | .obj [(kind, .obj parts)] => if kind = "bool" then sectionLeaves parts else [⟨kind, parts⟩]
  | _ => []

/-- The leaves of the clauses of all sections. -/
def sectionLeaves : List (String × Json) → List Leaf
  | [] => []
  | (_, .arr clauses) :: rest => leavesOfAll clauses ++ sectionLeaves rest
  | (_, clause) :: rest => leaves clause ++ sectionLeaves rest

/-- The leaves of a list of clauses. -/
def leavesOfAll : List Json → List Leaf
  | [] => []
  | first :: rest => leaves first ++ leavesOfAll rest

end

/-- The values that a clause asks for in some fields, at any depth. -/
def valuesIn (fields : List String) (clause : Json) : List String :=
  (leaves clause).flatMap (Leaf.valuesIn fields)

/-! ### Clauses of requests -/

section Leaves

variable (document : Document)

@[simp]
theorem holds_matchAll : holds document matchAll = true := by
  rfl

@[simp]
theorem holds_queryString (text : String) :
    holds document (queryString text) = document.matchesText text := by
  rfl

@[simp]
theorem holds_term (field value : String) :
    holds document (term field value) = (document.values field).contains value := by
  rfl

@[simp]
theorem holds_terms (field : String) (values : List String) :
    holds document (terms field values) =
      values.any fun value => (document.values field).contains value := by
  have hLeaf : holds document (terms field values) =
      (values.map Json.str).any fun value => match value with
        | .str text => (document.values field).contains text
        | _ => false := rfl
  rw [hLeaf, List.any_map]
  rfl

theorem holds_range (field start stop : String) :
    holds document (range field start stop) =
      (document.instant? field).any fun t =>
        ((Instant.read? start).any fun limit => decide (limit ≤ t)) &&
          (Instant.read? stop).any fun limit => decide (t ≤ limit) := by
  have hLeaf : holds document (range field start stop) =
      (document.instant? field).any fun t =>
        [("gte", Json.str start), ("lte", Json.str stop)].all (Leaf.respects t) := rfl
  rw [hLeaf]
  simp [Leaf.respects]

end Leaves

/-! ### Sections -/

section Sections

variable (document : Document)

theorem verdicts_eq_map (clauses : List Json) :
    verdicts document clauses = clauses.map (holds document) := by
  induction clauses with
  | nil => rfl
  | cons first rest ih => rw [verdicts, List.map_cons, ih]

theorem leavesOfAll_eq_flatMap (clauses : List Json) :
    leavesOfAll clauses = clauses.flatMap leaves := by
  induction clauses with
  | nil => rfl
  | cons first rest ih => rw [leavesOfAll, List.flatMap_cons, ih]

theorem sectionVerdicts_append (first second : List (String × Json)) :
    sectionVerdicts document (first ++ second) =
      sectionVerdicts document first ++ sectionVerdicts document second := by
  induction first with
  | nil => rfl
  | cons head rest ih =>
    obtain ⟨name, value⟩ := head
    -- a list of clauses and a single clause are read by different equations
    cases value <;> simp [sectionVerdicts, ih]

theorem sectionLeaves_append (first second : List (String × Json)) :
    sectionLeaves (first ++ second) = sectionLeaves first ++ sectionLeaves second := by
  induction first with
  | nil => rfl
  | cons head rest ih =>
    obtain ⟨name, value⟩ := head
    cases value <;> simp [sectionLeaves, ih]

theorem sectionVerdicts_clauseField (name : String) (clauses : List Json) :
    sectionVerdicts document (BoolQuery.clauseField name clauses) =
      clauses.map fun clause => (name, holds document clause) := by
  cases clauses with
  | nil => rfl
  | cons first rest =>
    simp [BoolQuery.clauseField, Json.fieldWhen, sectionVerdicts, verdicts_eq_map]

theorem sectionLeaves_clauseField (name : String) (clauses : List Json) :
    sectionLeaves (BoolQuery.clauseField name clauses) = clauses.flatMap leaves := by
  cases clauses with
  | nil => rfl
  | cons first rest =>
    simp [BoolQuery.clauseField, Json.fieldWhen, sectionLeaves, leavesOfAll_eq_flatMap]

theorem under_append (name : String) (first second : List (String × Bool)) :
    under name (first ++ second) = under name first ++ under name second := by
  rw [under, List.filter_append, List.map_append, under, under]

@[simp]
theorem under_map (name other : String) (test : Json → Bool) (clauses : List Json) :
    under name (clauses.map fun clause => (other, test clause)) =
      if name = other then clauses.map test else [] := by
  induction clauses with
  | nil => simp [under]
  | cons first rest ih =>
    unfold under at ih ⊢
    by_cases hName : name = other
    · simpa [hName] using ih
    · simp [hName, Ne.symm hName]

/-- The number of clauses that should hold is no clause of any section. -/
theorem under_number {name other : String} (h : name ≠ other) (number : Option UInt32) :
    under name (sectionVerdicts document (Json.optionalField other .word number)) = [] := by
  cases number with
  | none => rfl
  | some n =>
    have hVerdict : sectionVerdicts document [(other, .word n)] = [(other, false)] := rfl
    rw [Json.optionalField, hVerdict]
    simp [under, h.symm]

end Sections

@[simp]
theorem holds_all (document : Document) (clauses : List Json) :
    holds document (all clauses) = clauses.all (holds document) := by
  have hCompound : holds document (all clauses) =
      combine none (sectionVerdicts document [("filter", .arr clauses)]) := rfl
  have hVerdicts : sectionVerdicts document [("filter", .arr clauses)] =
      clauses.map fun clause => ("filter", holds document clause) := by
    simp [sectionVerdicts, verdicts_eq_map]
  rw [hCompound, hVerdicts, combine]
  simp [List.all_map]

@[simp]
theorem holds_any (document : Document) (clauses : List Json) :
    holds document (any clauses) = clauses.any (holds document) := by
  have hCompound : holds document (any clauses) =
      combine (some 1) (sectionVerdicts document
        [("minimum_should_match", .word 1), ("should", .arr clauses)]) := rfl
  have hVerdicts : sectionVerdicts document
      [("minimum_should_match", .word 1), ("should", .arr clauses)] =
      sectionVerdicts document (Json.optionalField "minimum_should_match" .word (some 1))
        ++ clauses.map fun clause => ("should", holds document clause) := by
    simp [sectionVerdicts, verdicts_eq_map, Json.optionalField, Json.word]
  -- one of the clauses should hold at least, so the verdicts contain a true one
  rw [hCompound, hVerdicts, combine, Bool.eq_iff_iff]
  simp [under_append, under_number, List.one_le_count_iff]

section Values

variable (fields : List String)

@[simp]
theorem valuesIn_matchAll : valuesIn fields matchAll = [] := by
  rfl

@[simp]
theorem valuesIn_queryString (text : String) : valuesIn fields (queryString text) = [] := by
  rfl

@[simp]
theorem valuesIn_range (field start stop : String) :
    valuesIn fields (range field start stop) = [] := by
  rfl

@[simp]
theorem mem_valuesIn_term {field value other : String} :
    other ∈ valuesIn fields (term field value) ↔ field ∈ fields ∧ other = value := by
  have hLeaf : valuesIn fields (term field value) =
      (if field ∈ fields then [value] else []) ++ [] := rfl
  rw [hLeaf]
  by_cases hField : field ∈ fields <;> simp [hField]

@[simp]
theorem mem_valuesIn_terms {field other : String} {values : List String} :
    other ∈ valuesIn fields (terms field values) ↔ field ∈ fields ∧ other ∈ values := by
  have hLeaf : valuesIn fields (terms field values) =
      (if field ∈ fields then (values.map Json.str).filterMap fun value => match value with
        | .str text => some text
        | _ => none
      else []) ++ [] := rfl
  rw [hLeaf]
  by_cases hField : field ∈ fields <;> simp [hField]

theorem mem_valuesIn_of_leaves {clause : Json} {parts : List Json}
    (h : leaves clause = parts.flatMap leaves) {value : String} :
    value ∈ valuesIn fields clause ↔ ∃ part ∈ parts, value ∈ valuesIn fields part := by
  unfold valuesIn
  rw [h, List.flatMap_assoc, List.mem_flatMap]

@[simp]
theorem mem_valuesIn_all {clauses : List Json} {value : String} :
    value ∈ valuesIn fields (all clauses) ↔ ∃ clause ∈ clauses, value ∈ valuesIn fields clause := by
  have hLeaves : leaves (all clauses) = leavesOfAll clauses ++ [] := rfl
  rw [List.append_nil, leavesOfAll_eq_flatMap] at hLeaves
  exact mem_valuesIn_of_leaves fields hLeaves

@[simp]
theorem mem_valuesIn_any {clauses : List Json} {value : String} :
    value ∈ valuesIn fields (any clauses) ↔ ∃ clause ∈ clauses, value ∈ valuesIn fields clause := by
  have hLeaves : leaves (any clauses) = leavesOfAll clauses ++ [] := rfl
  rw [List.append_nil, leavesOfAll_eq_flatMap] at hLeaves
  exact mem_valuesIn_of_leaves fields hLeaves

end Values

end Clause

namespace BoolQuery

/-! ### Conditions -/

/-- Whether a document satisfies the conditions of a request, as they are written out. -/
def selects (document : Document) (query : BoolQuery) : Bool :=
  Clause.holds document query.toJson

/-- How many of the clauses that should hold have to. -/
def least (query : BoolQuery) : Nat :=
  (query.minimumShouldMatch.map UInt32.toNat).getD
    (if (query.must = [] ∧ query.filter = []) ∧ query.should ≠ [] then 1 else 0)

/-- The number that is written out is the declared one. -/
theorem least?_sections (query : BoolQuery) :
    Clause.least? (clauseField "filter" query.filter
      ++ Json.optionalField "minimum_should_match" .word query.minimumShouldMatch
      ++ clauseField "must" query.must
      ++ clauseField "must_not" query.mustNot
      ++ clauseField "should" query.should) = query.minimumShouldMatch.map UInt32.toNat := by
  have hLookup : (clauseField "filter" query.filter
      ++ Json.optionalField "minimum_should_match" .word query.minimumShouldMatch
      ++ clauseField "must" query.must
      ++ clauseField "must_not" query.mustNot
      ++ clauseField "should" query.should).lookup "minimum_should_match" =
        query.minimumShouldMatch.map .word := by
    simp [clauseField, List.lookup_append]
  rw [Clause.least?, hLookup]
  cases query.minimumShouldMatch with
  | none => rfl
  | some number => simp [Json.word, Json.unsigned?]

theorem selects_iff {document : Document} {query : BoolQuery} :
    query.selects document = true ↔
      (∀ clause ∈ query.must, Clause.holds document clause = true) ∧
      (∀ clause ∈ query.filter, Clause.holds document clause = true) ∧
      (∀ clause ∈ query.mustNot, Clause.holds document clause = false) ∧
      query.least ≤ query.should.countP (Clause.holds document) := by
  have hCompound : query.selects document =
      Clause.combine (Clause.least? _) (Clause.sectionVerdicts document _) := rfl
  have hCount : (query.should.map (Clause.holds document)).count true =
      query.should.countP (Clause.holds document) := by
    rw [List.count_eq_countP, List.countP_map]
    exact List.countP_congr (by simp)
  -- a section that is left out reads as an empty one, so no case needs to be told apart here
  rw [hCompound, least?_sections, Clause.combine, least]
  simp [Clause.sectionVerdicts_append, Clause.sectionVerdicts_clauseField, Clause.under_append,
    Clause.under_number, hCount, and_assoc]

/-- A clause that must hold settles that no clause need hold that only should. -/
theorem least_eq_of_must {query : BoolQuery} (h : query.must ≠ []) :
    query.least = (query.minimumShouldMatch.map UInt32.toNat).getD 0 := by
  simp [least, h]

/-- The conditions with more clauses that must hold. -/
def extend (must filter : List Json) (query : BoolQuery) : BoolQuery :=
  { query with must := query.must ++ must, filter := query.filter ++ filter }

@[simp]
theorem extend_nil (query : BoolQuery) : query.extend [] [] = query := by
  simp [extend]

theorem extend_extend (query : BoolQuery) (must filter moreMust moreFilter : List Json) :
    (query.extend must filter).extend moreMust moreFilter =
      query.extend (must ++ moreMust) (filter ++ moreFilter) := by
  simp [extend]

/-- More clauses ask for what they say and change nothing else.  Without a clause that must hold
this would fail, since the first such clause makes all clauses that should hold optional. -/
theorem selects_extend_iff {document : Document} {query : BoolQuery} (h : query.must ≠ [])
    {must filter : List Json} :
    (query.extend must filter).selects document = true ↔
      query.selects document = true ∧
        ∀ clause ∈ must ++ filter, Clause.holds document clause = true := by
  have hMust : (query.extend must filter).must ≠ [] := by
    simp [extend, h]
  have hLeast : (query.extend must filter).least = query.least := by
    rw [least_eq_of_must h, least_eq_of_must hMust]
    rfl
  rw [selects_iff, selects_iff, hLeast]
  simp only [extend, List.forall_mem_append]
  tauto

/-! ### Values asked for -/

/-- The values that the conditions of a request ask for in some fields. -/
def valuesIn (fields : List String) (query : BoolQuery) : List String :=
  Clause.valuesIn fields query.toJson

theorem mem_valuesIn {fields : List String} {query : BoolQuery} {value : String} :
    value ∈ query.valuesIn fields ↔
      ∃ clause ∈ query.filter ++ query.must ++ query.mustNot ++ query.should,
        value ∈ Clause.valuesIn fields clause := by
  have hLeaves : Clause.leaves query.toJson = Clause.sectionLeaves _ := rfl
  have hNumber : Clause.sectionLeaves
      (Json.optionalField "minimum_should_match" .word query.minimumShouldMatch) = [] := by
    cases query.minimumShouldMatch <;> rfl
  simp only [Clause.sectionLeaves_append, Clause.sectionLeaves_clauseField, hNumber,
    List.append_nil, ← List.flatMap_append] at hLeaves
  exact Clause.mem_valuesIn_of_leaves fields hLeaves

theorem mem_valuesIn_extend {fields : List String} {query : BoolQuery} {must filter : List Json}
    {value : String} :
    value ∈ (query.extend must filter).valuesIn fields ↔
      value ∈ query.valuesIn fields ∨
        ∃ clause ∈ must ++ filter, value ∈ Clause.valuesIn fields clause := by
  simp only [mem_valuesIn, extend, List.mem_append]
  grind

end BoolQuery

end LogSearch
