import LogSearch.Proofs.Refinement

/-!
# Values stay inside their phrases

The text of an attribute filter is read here by the phrase rule of the query
language and nothing else.  A phrase opens at a double quote, a backslash inside
it makes the next character stand for itself, and the first quote that is not
made to stand for itself closes it.

Texts that are read apart from each other are read alike when one stands behind
the other (`Reads.append`), so it is enough to know how one value is read, and how
what stands around the values.  The latter has no quotes and so belongs to no
phrase.  As a text has only one reading, the text of a filter determines the
filter.
-/

namespace LogSearch

namespace QueryLanguage

/-! ### The phrase rule -/

/-- A part of a query text: a character outside of phrases, or a phrase with its content. -/
inductive Part
  | outside (c : Char)
  | phrase (content : String)
  deriving DecidableEq

/-- What stands behind an opening quote: the content of the phrase, and what follows the quote that
closes it. -/
inductive Closes : (text content rest : List Char) → Prop
  | quote {rest : List Char} : Closes ('"' :: rest) [] rest
  | literal {c : Char} {text content rest : List Char} (hMore : Closes text content rest) :
      Closes ('\\' :: c :: text) (c :: content) rest
  | plain {c : Char} {text content rest : List Char} (hQuote : c ≠ '"') (hBackslash : c ≠ '\\')
      (hMore : Closes text content rest) : Closes (c :: text) (c :: content) rest

/-- The parts of a text from the left. -/
inductive Reads : (text : List Char) → (parts : List Part) → Prop
  | nil : Reads [] []
  | phrase {text content rest : List Char} {parts : List Part} (hPhrase : Closes text content rest)
      (hRest : Reads rest parts) : Reads ('"' :: text) (.phrase (String.ofList content) :: parts)
  | outside {c : Char} {text : List Char} {parts : List Part} (hQuote : c ≠ '"')
      (hRest : Reads text parts) : Reads (c :: text) (.outside c :: parts)

/-- A phrase ends in one place only. -/
theorem Closes.unique {text content rest other after : List Char} (h : Closes text content rest)
    (hOther : Closes text other after) : content = other ∧ rest = after := by
  induction h generalizing other with
  | quote =>
    cases hOther with
    | quote => exact ⟨rfl, rfl⟩
    | plain hQuote => contradiction
  | literal hMore ih =>
    cases hOther with
    | literal hOtherMore =>
      obtain ⟨rfl, rfl⟩ := ih hOtherMore
      exact ⟨rfl, rfl⟩
    | plain hQuote hBackslash => contradiction
  | plain hQuote hBackslash hMore ih =>
    cases hOther with
    | quote => contradiction
    | literal => contradiction
    | plain _ _ hOtherMore =>
      obtain ⟨rfl, rfl⟩ := ih hOtherMore
      exact ⟨rfl, rfl⟩

/-- A text is read in one way only. -/
theorem Reads.unique {text : List Char} {parts others : List Part} (h : Reads text parts)
    (hOthers : Reads text others) : parts = others := by
  induction h generalizing others with
  | nil =>
    cases hOthers
    rfl
  | phrase hPhrase hRest ih =>
    cases hOthers with
    | phrase hOther hMore =>
      obtain ⟨rfl, rfl⟩ := hPhrase.unique hOther
      rw [ih hMore]
    | outside hQuote => contradiction
  | outside hQuote hRest ih =>
    cases hOthers with
    | phrase => contradiction
    | outside _ hMore => rw [ih hMore]

/-! ### Texts behind each other -/

theorem Closes.append {text content rest : List Char} (h : Closes text content rest)
    (more : List Char) : Closes (text ++ more) content (rest ++ more) := by
  induction h with
  | quote => exact .quote
  | literal _ ih => exact .literal ih
  | plain hQuote hBackslash _ ih => exact .plain hQuote hBackslash ih

theorem Reads.append {text more : List Char} {parts others : List Part} (h : Reads text parts)
    (hMore : Reads more others) : Reads (text ++ more) (parts ++ others) := by
  induction h with
  | nil => exact hMore
  | phrase hPhrase _ ih => exact .phrase (hPhrase.append more) ih
  | outside hQuote _ ih => exact .outside hQuote ih

/-- The parts of a text without phrases. -/
def plainly (text : List Char) : List Part :=
  text.map .outside

theorem reads_plainly {text : List Char} (h : '"' ∉ text) : Reads text (plainly text) := by
  induction text with
  | nil => exact .nil
  | cons c rest ih =>
    have hQuote : c ≠ '"' := fun hSame => h (hSame ▸ List.mem_cons_self)
    exact .outside hQuote (ih fun hRest => h (List.mem_cons_of_mem _ hRest))

theorem reads_intercalate {separator : List Char} {between : List Part} {α : Type}
    {text : α → List Char} {parts : α → List Part} (hBetween : Reads separator between)
    (hEach : ∀ item, Reads (text item) (parts item)) (items : List α) :
    Reads (separator.intercalate (items.map text)) (between.intercalate (items.map parts)) := by
  induction items with
  | nil => exact .nil
  | cons first rest ih =>
    cases rest with
    | nil => simpa using hEach first
    | cons second others =>
      simp only [List.map_cons, List.intercalate_cons_cons] at ih ⊢
      exact ((hEach first).append hBetween).append ih

/-! ### What a reading tells -/

/-- The contents of the phrases. -/
def phrases (parts : List Part) : List String :=
  parts.filterMap fun
    | .outside _ => none
    | .phrase content => some content

/-- What stands outside of the phrases, with a gap for each of them. -/
def outline (parts : List Part) : List (Option Char) :=
  parts.map fun
    | .outside c => some c
    | .phrase _ => none

/-- A text without gaps. -/
def wording (text : String) : List (Option Char) :=
  text.toList.map some

@[simp]
theorem phrases_append (parts others : List Part) :
    phrases (parts ++ others) = phrases parts ++ phrases others :=
  List.filterMap_append

@[simp]
theorem outline_append (parts others : List Part) :
    outline (parts ++ others) = outline parts ++ outline others :=
  List.map_append

@[simp]
theorem phrases_plainly (text : List Char) : phrases (plainly text) = [] := by
  simp [phrases, plainly]

@[simp]
theorem outline_plainly (text : List Char) : outline (plainly text) = text.map some := by
  simp [outline, plainly]

/-- What is told of texts behind each other part by part is told so of texts with a separator. -/
theorem intercalate_of_append {α : Type} {told : List Part → List α} (hNil : told [] = [])
    (hAppend : ∀ parts others, told (parts ++ others) = told parts ++ told others)
    (separator : List Part) (items : List (List Part)) :
    told (separator.intercalate items) = (told separator).intercalate (items.map told) := by
  induction items with
  | nil => exact hNil
  | cons first rest ih =>
    cases rest with
    | nil => simp
    | cons second others =>
      rw [List.intercalate_cons_cons, hAppend, hAppend, ih]
      simp only [List.map_cons, List.intercalate_cons_cons]

theorem nil_intercalate_singletons {α : Type} (items : List α) :
    [].intercalate (items.map ([·])) = items := by
  induction items with
  | nil => rfl
  | cons first rest ih =>
    cases rest with
    | nil => rfl
    | cons second others => exact congrArg (first :: ·) ih

/-- What stands before the first gap is determined. -/
theorem eq_of_map_some_append_none {text other : List Char} {rest after : List (Option Char)}
    (h : text.map some ++ none :: rest = other.map some ++ none :: after) : text = other := by
  have hBefore (text : List Char) (rest : List (Option Char)) :
      (text.map some ++ none :: rest).takeWhile Option.isSome = text.map some := by
    rw [List.takeWhile_append_of_pos (by simp)]
    simp
  have hSame := congrArg (List.takeWhile Option.isSome) h
  rw [hBefore, hBefore] at hSame
  exact List.map_injective_iff.mpr (Option.some_injective _) hSame

end QueryLanguage

namespace AttributeFilter

open QueryLanguage

/-! ### One value -/

/-- A text with a backslash before each occurrence of a character. -/
def guarded (mark : Char) (text : List Char) : List Char :=
  text.flatMap fun c => if c = mark then ['\\', c] else [c]

/-- Escaping in one go is the same as escaping the backslashes first and then the quotes.  In the
other order the backslashes put before quotes would be escaped as well. -/
theorem escapePhrase_eq (value : List Char) :
    escapePhrase value = guarded '"' (guarded '\\' value) := by
  unfold escapePhrase guarded
  rw [List.flatMap_assoc]
  refine List.flatMap_congr fun c _ => ?_
  by_cases hBackslash : c = '\\'
  · simp [hBackslash]
  · by_cases hQuote : c = '"'
    · simp [hQuote]
    · simp [hBackslash, hQuote]

theorem closes_escapePhrase (value rest : List Char) :
    Closes (escapePhrase value ++ '"' :: rest) value rest := by
  induction value with
  | nil => exact .quote
  | cons c value ih =>
    rw [escapePhrase, List.flatMap_cons, List.append_assoc]
    -- A character that has been guarded is literal, also if it would close the phrase.
    split
    · exact .literal ih
    · next hPlain =>
      obtain ⟨hBackslash, hQuote⟩ := not_or.mp hPlain
      exact .plain hQuote hBackslash ih

/-- The parts of the text that asks for one value. -/
def term (field value : String) : List Part :=
  plainly field.toList ++ [.outside ':', .phrase value]

theorem reads_phrase {field : String} (hField : '"' ∉ field.toList) (value : String) :
    Reads (phrase field value).toList (term field value) := by
  have hPhrase : Reads ('"' :: (escapePhrase value.toList ++ ['"'])) [.phrase value] := by
    have hReads := Reads.phrase (closes_escapePhrase value.toList []) .nil
    rwa [String.ofList_toList] at hReads
  have hColon : Reads [':'] [.outside ':'] := .outside (by decide) .nil
  have hText : (phrase field value).toList =
      field.toList ++ ([':'] ++ '"' :: (escapePhrase value.toList ++ ['"'])) := by
    simp [phrase]
  rw [hText]
  exact (reads_plainly hField).append (hColon.append hPhrase)

/-! ### All values -/

/-- The parts of the text that asks for any of some values. -/
def alternatives (field : String) : List String → List Part
  | [only] => term field only
  | values => plainly ['('] ++ (plainly " OR ".toList).intercalate (values.map (term field))
      ++ plainly [')']

/-- The parts of the text that a filter is carried out as. -/
def parts (filter : AttributeFilter) : List Part :=
  plainly (if filter.negated then "NOT " else "").toList ++
    alternatives filter.field filter.values

theorem reads_alternatives {field : String} (hField : '"' ∉ field.toList) (values : List String) :
    Reads ("(" ++ " OR ".intercalate (values.map (phrase field)) ++ ")").toList
      (plainly ['('] ++ (plainly " OR ".toList).intercalate (values.map (term field))
        ++ plainly [')']) := by
  have hOr : '"' ∉ " OR ".toList := by decide
  have hJoined := reads_intercalate (reads_plainly hOr) (reads_phrase hField) values
  have hText : ("(" ++ " OR ".intercalate (values.map (phrase field)) ++ ")").toList =
      ['('] ++ " OR ".toList.intercalate (values.map fun value => (phrase field value).toList)
        ++ [')'] := by
    simp [String.toList_intercalate, Function.comp_def]
  rw [hText]
  exact ((reads_plainly (by decide)).append hJoined).append (reads_plainly (by decide))

/-- The text of a filter is read as the text for its values, behind a word if it is negated. -/
theorem reads_clauses {filter : AttributeFilter} (hField : '"' ∉ filter.field.toList)
    (hValues : filter.values ≠ []) :
    ∃ clause, filter.clauses = [clause] ∧ Reads clause.toList filter.parts := by
  obtain ⟨body, hClauses, hBody⟩ : ∃ body,
      filter.clauses = [if filter.negated then "NOT " ++ body else body] ∧
        Reads body.toList (alternatives filter.field filter.values) := by
    have hMany := reads_alternatives hField filter.values
    unfold clauses
    cases hCases : filter.values with
    | nil => contradiction
    | cons first rest =>
      cases rest with
      | nil => exact ⟨_, rfl, reads_phrase hField first⟩
      | cons second others => exact ⟨_, rfl, by rwa [hCases] at hMany⟩
  refine ⟨_, hClauses, ?_⟩
  unfold parts
  cases filter.negated with
  | false => exact hBody
  | true =>
    rw [if_pos rfl, String.toList_append]
    exact (reads_plainly (by decide)).append hBody

/-! ### What the text says besides the values -/

/-- The text for a field and one value, with a gap for the value. -/
def place (field : String) : List (Option Char) :=
  wording (field ++ ":") ++ [none]

/-- The text for a number of values, with gaps for the values. -/
def frame (field : String) (count : Nat) : List (Option Char) :=
  if count = 1 then place field
  else wording "(" ++ (wording " OR ").intercalate (List.replicate count (place field))
    ++ wording ")"

/-- The text of a filter with gaps for its values. -/
def skeleton (negated : Bool) (field : String) (count : Nat) : List (Option Char) :=
  wording (if negated then "NOT " else "") ++ frame field count

@[simp]
theorem phrases_term (field value : String) : phrases (term field value) = [value] := by
  rw [term, phrases_append, phrases_plainly]
  rfl

@[simp]
theorem outline_term (field value : String) : outline (term field value) = place field := by
  rw [term, outline_append, outline_plainly, place, wording, String.toList_append, List.map_append,
    List.append_assoc]
  rfl

theorem phrases_intercalate (field : String) (separator : List Char) (values : List String) :
    phrases ((plainly separator).intercalate (values.map (term field))) = values := by
  rw [intercalate_of_append rfl phrases_append, phrases_plainly, List.map_map,
    Function.comp_def]
  simp only [phrases_term, nil_intercalate_singletons]

theorem outline_intercalate (field : String) (separator : List Char) (values : List String) :
    outline ((plainly separator).intercalate (values.map (term field))) =
      (separator.map some).intercalate (List.replicate values.length (place field)) := by
  rw [intercalate_of_append rfl outline_append, outline_plainly, List.map_map,
    Function.comp_def]
  simp only [outline_term, List.map_const']

theorem phrases_alternatives (field : String) (values : List String) :
    phrases (alternatives field values) = values := by
  unfold alternatives
  split
  · exact phrases_term _ _
  · simp [phrases_intercalate]

theorem outline_alternatives (field : String) (values : List String) :
    outline (alternatives field values) = frame field values.length := by
  unfold alternatives
  split
  · exact outline_term _ _
  · next hMany =>
    have hCount : values.length ≠ 1 := by
      intro hOne
      obtain ⟨only, hOnly⟩ := List.length_eq_one_iff.mp hOne
      exact hMany only hOnly
    rw [frame, if_neg hCount, outline_append, outline_append, outline_intercalate]
    rfl

theorem phrases_parts (filter : AttributeFilter) : phrases filter.parts = filter.values := by
  rw [parts, phrases_append, phrases_plainly, phrases_alternatives, List.nil_append]

theorem outline_parts (filter : AttributeFilter) :
    outline filter.parts = skeleton filter.negated filter.field filter.values.length := by
  rw [parts, outline_append, outline_plainly, outline_alternatives]
  rfl

/-! ### The filter of a text -/

theorem field_eq_of_place {field other : String} {rest after : List (Option Char)}
    (h : place field ++ rest = place other ++ after) : field = other := by
  simp only [place, wording, List.append_assoc, List.singleton_append] at h
  have hNames : field ++ ":" = other ++ ":" :=
    String.toList_injective (eq_of_map_some_append_none h)
  exact (String.append_left_inj _).mp hNames

theorem field_eq_of_frame {field other : String} {count : Nat} (hCount : 0 < count)
    (h : frame field count = frame other count) : field = other := by
  match count with
  | 1 =>
    rw [frame, frame, if_pos rfl, if_pos rfl, ← List.append_nil (place field),
      ← List.append_nil (place other)] at h
    exact field_eq_of_place h
  | count + 2 =>
    simp only [frame, Nat.reduceEqDiff, if_false, List.replicate_succ, List.intercalate_cons_cons,
      List.append_assoc, List.append_cancel_left_eq] at h
    exact field_eq_of_place h

/-- Without a negation the text starts with a bracket, with the field, or with what follows the
field. -/
theorem head?_frame_ne {field : String} (hField : field.toList.head? ≠ some 'N') (count : Nat) :
    (frame field count).head? ≠ some (some 'N') := by
  unfold frame
  split
  · unfold place wording
    rw [String.toList_append]
    cases hText : field.toList with
    | nil => simp
    | cons first rest => simpa [hText] using hField
  · simp [wording]

theorem skeleton_inj {negated negatedToo : Bool} {field other : String} {count : Nat}
    (hField : field.toList.head? ≠ some 'N') (hOther : other.toList.head? ≠ some 'N')
    (hCount : 0 < count) (h : skeleton negated field count = skeleton negatedToo other count) :
    negated = negatedToo ∧ field = other := by
  have hHead := congrArg List.head? h
  have hFieldHead := head?_frame_ne hField count
  have hOtherHead := head?_frame_ne hOther count
  -- A negation starts with the letter N, and nothing else does.
  cases negated <;> cases negatedToo
  · exact ⟨rfl, field_eq_of_frame hCount (by simpa [skeleton, wording] using h)⟩
  · exact absurd (by simpa [skeleton, wording] using hHead) hFieldHead
  · exact absurd (by simpa [skeleton, wording, eq_comm] using hHead) hOtherHead
  · exact ⟨rfl, field_eq_of_frame hCount (by simpa [skeleton, wording] using h)⟩

theorem plain_of_mem_knownAttributes {field : String} (h : field ∈ EventList.knownAttributes) :
    '"' ∉ field.toList ∧ field.toList.head? ≠ some 'N' := by
  revert field
  decide

/-- A filter is determined by the parts that its text is read as. -/
theorem eq_of_parts_eq {filter other : AttributeFilter}
    (hField : filter.field ∈ EventList.knownAttributes)
    (hOther : other.field ∈ EventList.knownAttributes) (hValues : filter.values ≠ [])
    (h : other.parts = filter.parts) : other = filter := by
  have hSameValues : other.values = filter.values := by
    rw [← phrases_parts, h, phrases_parts]
  have hSkeleton := congrArg outline h
  rw [outline_parts, outline_parts, hSameValues] at hSkeleton
  obtain ⟨hNegated, hSameField⟩ := skeleton_inj (plain_of_mem_knownAttributes hOther).2
    (plain_of_mem_knownAttributes hField).2 (List.length_pos_of_ne_nil hValues) hSkeleton
  cases other
  cases filter
  simp_all

/-- The text of a filter on a known attribute, read by the phrase rule alone, gives back the values
in their order, and leaves nothing else outside of the phrases than the wording for so many values.
No other filter on a known attribute is carried out as the same text. -/
theorem clause_read_back {filter : AttributeFilter}
    (hField : filter.field ∈ EventList.knownAttributes) (hValues : filter.values ≠ []) :
    ∃ clause parts, filter.clauses = [clause] ∧
      (∀ others, Reads clause.toList others ↔ others = parts) ∧
      phrases parts = filter.values ∧
      outline parts = skeleton filter.negated filter.field filter.values.length ∧
      ∀ other : AttributeFilter, other.field ∈ EventList.knownAttributes → other.values ≠ [] →
        other.clauses = [clause] → other = filter := by
  obtain ⟨clause, hClause, hReads⟩ := reads_clauses (plain_of_mem_knownAttributes hField).1 hValues
  refine ⟨clause, filter.parts, hClause, fun others => ⟨fun h => h.unique hReads, ?_⟩,
    phrases_parts filter, outline_parts filter, fun other hOther hOtherValues hSame => ?_⟩
  · rintro rfl
    exact hReads
  · obtain ⟨text, hText, hOtherReads⟩ :=
      reads_clauses (plain_of_mem_knownAttributes hOther).1 hOtherValues
    obtain rfl : text = clause := by simpa [hSame] using hText.symm
    exact eq_of_parts_eq hField hOther hValues (hOtherReads.unique hReads)

/-- Values that hold a quote, a backslash at the end and words of the language. -/
theorem clause_read_back_of_quotes :
    let filter : AttributeFilter :=
      { field := "key", values := ["a\"b", "c\\", "x) OR NOT (y"], negated := true }
    let clause := "NOT (key:\"a\\\"b\" OR key:\"c\\\\\" OR key:\"x) OR NOT (y\")"
    filter.clauses = [clause] ∧ ∃ parts, (∀ others, Reads clause.toList others ↔ others = parts) ∧
      phrases parts = filter.values ∧ outline parts = skeleton true "key" 3 ∧
      ∀ other : AttributeFilter, other.field ∈ EventList.knownAttributes → other.values ≠ [] →
        other.clauses = [clause] → other = filter := by
  intro filter clause
  have hClause : filter.clauses = [clause] := by decide
  have hField : filter.field ∈ EventList.knownAttributes := by decide
  obtain ⟨text, parts, hText, hReadBack⟩ := clause_read_back hField (by decide)
  obtain rfl : clause = text := List.singleton_inj.mp (hClause.symm.trans hText)
  exact ⟨hClause, parts, hReadBack⟩

end AttributeFilter

end LogSearch
