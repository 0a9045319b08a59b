import LogSearch.Proofs.ClauseMeaning
import LogSearch.Proofs.Outcome

/-!
# Queries keep their meaning as clauses

The base of a query's requests is made of four parts: the text, the time range,
the filter tree and the search filters.  `ofQuery_eq_ok_iff` says in one place
when there is a base and what it is made of, so that everything else about it
follows from what its clauses mean and which values they ask for.  The clause of the
text matches everything for the texts of `QueryText.isMatchAll_iff`.
-/

namespace LogSearch

/-! ### Texts that match everything -/

namespace Text

theorem trimStart_append_of_blank {blanks : List Char} (h : ∀ c ∈ blanks, isBlank c = true)
    (cs : List Char) : trimStart (blanks ++ cs) = trimStart cs :=
  List.dropWhile_append_of_pos h

theorem exists_eq_append_trimStart (cs : List Char) :
    ∃ blanks, (∀ c ∈ blanks, isBlank c = true) ∧ cs = blanks ++ trimStart cs :=
  ⟨cs.takeWhile isBlank, List.all_eq_true.mp List.all_takeWhile,
    List.takeWhile_append_dropWhile.symm⟩

/-- What is trimmed off at both ends is white space. -/
theorem exists_eq_append_trim (cs : List Char) :
    ∃ before after, (∀ c ∈ before, isBlank c = true) ∧ (∀ c ∈ after, isBlank c = true) ∧
      cs = before ++ (trim cs ++ after) := by
  obtain ⟨before, hBefore, hStart⟩ := exists_eq_append_trimStart cs
  obtain ⟨after, hAfter, hEnd⟩ := exists_eq_append_trimStart (trimStart cs).reverse
  refine ⟨before, after.reverse, hBefore, fun c hc => hAfter c (List.mem_reverse.mp hc), ?_⟩
  rw [trim, ← List.reverse_append, ← hEnd, List.reverse_reverse]
  exact hStart

end Text

/-- A text matches everything if it holds nothing but white space, or one star with white space
around it. -/
theorem QueryText.isMatchAll_iff {query : QueryText} :
    query.isMatchAll = true ↔
      (∀ c ∈ query.text.toList, Text.isBlank c = true) ∨
        ∃ before after, query.text.toList = before ++ '*' :: after ∧
          (∀ c ∈ before, Text.isBlank c = true) ∧ ∀ c ∈ after, Text.isBlank c = true := by
  unfold isMatchAll
  generalize query.text.toList = cs
  simp only [Bool.or_eq_true, List.isEmpty_iff, beq_iff_eq]
  constructor
  · obtain ⟨before, after, hBefore, hAfter, hText⟩ := Text.exists_eq_append_trim cs
    rintro (hEmpty | hStar)
    · rw [hEmpty, List.nil_append] at hText
      rw [hText]
      exact .inl fun c hc => (List.mem_append.mp hc).elim (hBefore c) (hAfter c)
    · rw [hStar] at hText
      exact .inr ⟨before, after, hText, hBefore, hAfter⟩
  · rintro (hBlank | ⟨before, after, rfl, hBefore, hAfter⟩)
    · have hNothing : Text.trimStart cs = [] := List.dropWhile_eq_nil_iff.mpr hBlank
      rw [Text.trim, hNothing]
      exact .inl rfl
    · have hStar (rest : List Char) : Text.trimStart ('*' :: rest) = '*' :: rest := rfl
      have hReversed : ∀ c ∈ after.reverse, Text.isBlank c = true :=
        fun c hc => hAfter c (List.mem_reverse.mp hc)
      rw [Text.trim, Text.trimStart_append_of_blank hBefore, hStar, List.reverse_cons,
        Text.trimStart_append_of_blank hReversed, hStar]
      exact .inr rfl

/-! ### Filters -/

namespace Filter

theorem toClauses_eq_ok_iff {layout : IndexLayout} {filters : List Filter} {clauses : List Json} :
    toClauses layout filters = .ok clauses ↔
      List.Forall₂ (fun filter clause => toClause layout filter = .ok clause) filters clauses := by
  induction filters generalizing clauses with
  | nil =>
    rw [toClauses, List.forall₂_nil_left_iff]
    simp [eq_comm]
  | cons first rest ih =>
    simp only [toClauses, bind_eq_ok, pure_eq_ok, ih]
    constructor
    · rintro ⟨clause, hFirst, others, hRest, rfl⟩
      exact .cons hFirst hRest
    · intro hAll
      cases hAll with
      | cons hFirst hRest => exact ⟨_, hFirst, _, hRest, rfl⟩

theorem toClause_and_eq_ok {layout : IndexLayout} {children : List Filter} {clause : Json} :
    toClause layout (.and children) = .ok clause ↔ ∃ clauses,
      List.Forall₂ (fun child clause => toClause layout child = .ok clause) children clauses ∧
        clause = Clause.all clauses := by
  simp only [toClause, bind_eq_ok, pure_eq_ok, toClauses_eq_ok_iff, eq_comm (a := clause)]

theorem toClause_or_eq_ok {layout : IndexLayout} {children : List Filter} {clause : Json} :
    toClause layout (.or children) = .ok clause ↔ ∃ clauses,
      List.Forall₂ (fun child clause => toClause layout child = .ok clause) children clauses ∧
        clause = Clause.any clauses := by
  simp only [toClause, bind_eq_ok, pure_eq_ok, toClauses_eq_ok_iff, eq_comm (a := clause)]

section Verdicts

variable {layout : IndexLayout} {document : Document} {reading : Reading} {children : List Filter}
  {clauses : List Json}

theorem verdicts_eq
    (h : List.Forall₂ (fun child clause => toClause layout child = .ok clause) children clauses)
    (hEach : ∀ child ∈ children, ∀ {clause : Json}, toClause layout child = .ok clause →
      Clause.holds document clause = holds reading child) :
    clauses.map (Clause.holds document) = children.map (holds reading) := by
  have hSame : List.Forall₂ (fun child clause => holds reading child = Clause.holds document clause)
      children clauses :=
    forall₂_imp_of_mem (fun child hChild clause hClause => (hEach child hChild hClause).symm) h
  rw [eq_comm, ← List.forall₂_eq_eq_eq, List.forall₂_map_left_iff, List.forall₂_map_right_iff]
  exact hSame

/-- The clause for a filter holds of the documents that the filter admits. -/
theorem holds_of_toClause (hStream : reading.inStream = document.inStream layout)
    (hText : reading.matchesText = document.matchesText) {filter : Filter} {clause : Json}
    (h : toClause layout filter = .ok clause) :
    Clause.holds document clause = holds reading filter := by
  induction filter generalizing clause with
  | and children ih =>
    obtain ⟨clauses, hClauses, rfl⟩ := toClause_and_eq_ok.mp h
    calc Clause.holds document (Clause.all clauses)
        = (clauses.map (Clause.holds document)).all id := by
          rw [Clause.holds_all, List.all_map, Function.id_comp]
      _ = (children.map (holds reading)).all id := by rw [verdicts_eq hClauses ih]
      _ = holds reading (.and children) := by rw [holds_and, List.all_map, Function.id_comp]
  | or children ih =>
    obtain ⟨clauses, hClauses, rfl⟩ := toClause_or_eq_ok.mp h
    calc Clause.holds document (Clause.any clauses)
        = (clauses.map (Clause.holds document)).any id := by
          rw [Clause.holds_any, List.any_map, Function.id_comp]
      _ = (children.map (holds reading)).any id := by rw [verdicts_eq hClauses ih]
      _ = holds reading (.or children) := by rw [holds_or, List.any_map, Function.id_comp]
  | stream id =>
    rw [toClause, Except.ok.injEq] at h
    rw [← h, Clause.holds_term, holds_stream, hStream, Document.inStream]
  | category name => contradiction
  | queryString query =>
    rw [toClause, Except.ok.injEq] at h
    rw [← h, Clause.holds_queryString, holds_queryString, hText]

end Verdicts

/-- The clause for a filter asks for the streams that the filter names. -/
theorem mem_streamIds_of_toClause {layout : IndexLayout} {filter : Filter} {clause : Json}
    (h : toClause layout filter = .ok clause) {fields : List String} {value : String}
    (hValue : value ∈ Clause.valuesIn fields clause) : value ∈ filter.streamIds := by
  induction filter generalizing clause with
  | and children ih =>
    obtain ⟨clauses, hClauses, rfl⟩ := toClause_and_eq_ok.mp h
    obtain ⟨part, hPart, hValue⟩ := (Clause.mem_valuesIn_all fields).mp hValue
    obtain ⟨child, hChild, hClause⟩ := exists_mem_of_forall₂ hClauses hPart
    exact mem_streamIds_and.mpr ⟨child, hChild, ih child hChild hClause hValue⟩
  | or children ih =>
    obtain ⟨clauses, hClauses, rfl⟩ := toClause_or_eq_ok.mp h
    obtain ⟨part, hPart, hValue⟩ := (Clause.mem_valuesIn_any fields).mp hValue
    obtain ⟨child, hChild, hClause⟩ := exists_mem_of_forall₂ hClauses hPart
    exact mem_streamIds_or.mpr ⟨child, hChild, ih child hChild hClause hValue⟩
  | stream id =>
    rw [toClause, Except.ok.injEq] at h
    rw [← h, Clause.mem_valuesIn_term] at hValue
    exact mem_streamIds_stream.mpr hValue.2
  | category name => contradiction
  | queryString query =>
    rw [toClause, Except.ok.injEq] at h
    rw [← h, Clause.valuesIn_queryString] at hValue
    contradiction

/-- Only a category has no clause. -/
theorem toClause_succeeds (layout : IndexLayout) {filter : Filter}
    (h : ∀ name, ¬ name ∈ filter.categories) : ∃ clause, toClause layout filter = .ok clause := by
  induction filter with
  | and children ih =>
    simp only [mem_categories_and, not_exists, not_and] at h
    obtain ⟨clauses, hClauses⟩ := exists_forall₂ fun child hChild =>
      ih child hChild fun name => h name child hChild
    exact ⟨Clause.all clauses, toClause_and_eq_ok.mpr ⟨clauses, hClauses, rfl⟩⟩
  | or children ih =>
    simp only [mem_categories_or, not_exists, not_and] at h
    obtain ⟨clauses, hClauses⟩ := exists_forall₂ fun child hChild =>
      ih child hChild fun name => h name child hChild
    exact ⟨Clause.any clauses, toClause_or_eq_ok.mpr ⟨clauses, hClauses, rfl⟩⟩
  | stream id => exact ⟨Clause.term layout.streamsField id, rfl⟩
  | category name => exact absurd (mem_categories_category.mpr rfl) (h name)
  | queryString query => exact ⟨Clause.queryString query, rfl⟩

end Filter

/-! ### Search filters -/

namespace SearchFilter

/-- The text that an enabled filter asks documents to match. -/
def wantedText? : SearchFilter → Option String
  | .inline _ _ text false false => some text
  | _ => none

/-- The text that an enabled filter asks documents not to match. -/
def excludedText? : SearchFilter → Option String
  | .inline _ _ text true false => some text
  | _ => none

/-- The filter need not be loaded: it is written out or disabled. -/
def NeedsNoLoading (filter : SearchFilter) : Prop :=
  filter.isStored = true → filter.isDisabled = true

theorem wantedText?_eq_some {filter : SearchFilter} {text : String} :
    filter.wantedText? = some text ↔
      ∃ title description, filter = .inline title description text false false := by
  unfold wantedText?
  split <;> simp_all

theorem excludedText?_eq_some {filter : SearchFilter} {text : String} :
    filter.excludedText? = some text ↔
      ∃ title description, filter = .inline title description text true false := by
  unfold excludedText?
  split <;> simp_all

end SearchFilter

namespace BoolQuery

/-- The conditions with the clauses for the texts of search filters added. -/
def withTexts (query : BoolQuery) (filters : List SearchFilter) : BoolQuery :=
  { query with
    filter := query.filter ++ (filters.filterMap SearchFilter.wantedText?).map Clause.queryString
    mustNot :=
      query.mustNot ++ (filters.filterMap SearchFilter.excludedText?).map Clause.queryString }

theorem addSearchFilter_eq_ok_iff {query next : BoolQuery} {filter : SearchFilter} :
    query.addSearchFilter filter = .ok next ↔
      filter.NeedsNoLoading ∧ next = query.withTexts [filter] := by
  rw [eq_comm (a := next)]
  -- the two switches of a filter decide which list its text goes to, if any
  cases filter with
  | inline title description text negated disabled =>
    have hLoaded : (SearchFilter.inline title description text negated disabled).NeedsNoLoading :=
      fun hStored => nomatch hStored
    cases disabled <;> cases negated <;>
      simp [addSearchFilter, hLoaded, withTexts, SearchFilter.wantedText?,
        SearchFilter.excludedText?, List.filterMap_cons, addFilter, addMustNot]
  | stored id negated disabled =>
    cases disabled <;>
      simp [addSearchFilter, SearchFilter.NeedsNoLoading, SearchFilter.isStored,
        SearchFilter.isDisabled, withTexts, SearchFilter.wantedText?, SearchFilter.excludedText?,
        List.filterMap_cons]

theorem withTexts_cons (query : BoolQuery) (first : SearchFilter) (rest : List SearchFilter) :
    query.withTexts (first :: rest) = (query.withTexts [first]).withTexts rest := by
  have hSplit : first :: rest = [first] ++ rest := rfl
  rw [hSplit]
  simp only [withTexts, List.filterMap_append, List.map_append, List.append_assoc]

theorem addSearchFilters_eq_ok_iff {query complete : BoolQuery} {filters : List SearchFilter} :
    filters.foldlM addSearchFilter query = .ok complete ↔
      (∀ filter ∈ filters, filter.NeedsNoLoading) ∧ complete = query.withTexts filters := by
  induction filters generalizing query with
  | nil =>
    rw [List.foldlM_nil, pure_eq_ok]
    simp [withTexts, eq_comm]
  | cons first rest ih =>
    rw [List.foldlM_cons, bind_eq_ok, withTexts_cons]
    simp only [addSearchFilter_eq_ok_iff, ih, List.forall_mem_cons]
    grind

end BoolQuery

/-! ### The base of a query's requests -/

namespace QueryContext

/-- The conditions of a query: its text, its time range, the clauses for its filter tree, of which
there is at most one, and the texts of its search filters. -/
def conditions (layout : IndexLayout) (query : Query) (start stop : Instant)
    (clauses : List Json) : BoolQuery :=
  { must := [textClause query.text]
    filter := Clause.range layout.timestampField start.requestText stop.requestText :: clauses
    : BoolQuery }.withTexts query.searchFilters

/-- When a query has a context, and what the context is made of. -/
theorem ofQuery_eq_ok_iff {layout : IndexLayout} {now : Instant} {query : Query}
    {context : QueryContext} :
    ofQuery layout now query = .ok context ↔ ∃ start stop clauses,
      query.timeRange.resolve now = .ok (start, stop) ∧
      List.Forall₂ (fun filter clause => filter.toClause layout = .ok clause)
        query.filter.toList clauses ∧
      (∀ filter ∈ query.searchFilters, filter.NeedsNoLoading) ∧
      context =
        { base := { query := conditions layout query start stop clauses }
          streams := query.filterStreams, layout, start, stop } := by
  unfold ofQuery
  -- the search filters are added within either branch, so the branches come first
  cases query.filter with
  | none =>
    simp only [bind_eq_ok, pure_eq_ok, BoolQuery.addSearchFilters_eq_ok_iff, Except.ok.injEq,
      exists_eq_left', Prod.exists, Option.toList_none, List.forall₂_nil_left_iff]
    constructor
    · rintro ⟨start, stop, hRange, complete, ⟨hLoaded, rfl⟩, rfl⟩
      exact ⟨start, stop, [], hRange, rfl, hLoaded, rfl⟩
    · rintro ⟨start, stop, clauses, hRange, rfl, hLoaded, rfl⟩
      exact ⟨start, stop, hRange, _, ⟨hLoaded, rfl⟩, rfl⟩
  | some filter =>
    simp only [bind_eq_ok, pure_eq_ok, BoolQuery.addSearchFilters_eq_ok_iff, map_eq_ok,
      Prod.exists, Option.toList_some, List.forall₂_cons_left_iff, List.forall₂_nil_left_iff]
    constructor
    · rintro ⟨start, stop, hRange, filtered, ⟨clause, hClause, rfl⟩, complete, ⟨hLoaded, rfl⟩, rfl⟩
      exact ⟨start, stop, [clause], hRange, ⟨clause, [], hClause, rfl, rfl⟩, hLoaded, rfl⟩
    · rintro ⟨start, stop, clauses, hRange, ⟨clause, rest, hClause, rfl, rfl⟩, hLoaded, rfl⟩
      exact ⟨start, stop, hRange, _, ⟨clause, hClause, rfl⟩, _, ⟨hLoaded, rfl⟩, rfl⟩

section Conditions

variable {document : Document} {layout : IndexLayout} {query : Query} {start stop : Instant}
  {clauses : List Json}

theorem holds_textClause (text : QueryText) :
    Clause.holds document (textClause text) = true ↔
      text.isMatchAll = true ∨ document.matchesText text.text = true := by
  unfold textClause
  by_cases hAll : text.isMatchAll = true
  · simp [hAll]
  · simp [hAll]

/-- The bounds of the time range are those of the query cut off after the milliseconds. -/
theorem holds_range_requestText (field : String) :
    Clause.holds document (Clause.range field start.requestText stop.requestText) = true ↔
      ∃ t, document.instant? field = some t ∧ start.truncated ≤ t ∧ t ≤ stop.truncated := by
  rw [Clause.holds_range, Instant.read?_requestText, Instant.read?_requestText, Option.any_eq_true]
  simp

/-- The clauses for the filter tree hold of the documents that it admits. -/
theorem holds_filterClauses (inCategory : String → Bool)
    (hClauses : List.Forall₂ (fun filter clause => filter.toClause layout = .ok clause)
      query.filter.toList clauses) :
    (∀ clause ∈ clauses, Clause.holds document clause = true) ↔
      ∀ filter, query.filter = some filter →
        filter.holds (document.reading layout inCategory) = true := by
  have hEach : List.Forall₂ (fun filter clause => Clause.holds document clause =
      filter.holds (document.reading layout inCategory)) query.filter.toList clauses :=
    hClauses.imp fun filter clause hClause => Filter.holds_of_toClause rfl rfl hClause
  cases hQuery : query.filter with
  | none =>
    rw [hQuery, Option.toList_none, List.forall₂_nil_left_iff] at hEach
    simp [hEach]
  | some filter =>
    rw [hQuery, Option.toList_some, List.forall₂_cons_left_iff] at hEach
    obtain ⟨clause, rest, hClause, hRest, rfl⟩ := hEach
    rw [List.forall₂_nil_left_iff] at hRest
    simp [hRest, hClause]

/-- A document respects the search filters if it matches all wanted texts and no excluded one. -/
theorem matchesText_searchFilters (matchesText : String → Bool) (filters : List SearchFilter) :
    ((∀ text ∈ filters.filterMap SearchFilter.wantedText?, matchesText text = true) ∧
      ∀ text ∈ filters.filterMap SearchFilter.excludedText?, matchesText text = false) ↔
      ∀ title description text negated,
        .inline title description text negated false ∈ filters → matchesText text = !negated := by
  simp only [List.mem_filterMap, SearchFilter.wantedText?_eq_some,
    SearchFilter.excludedText?_eq_some]
  constructor
  · rintro ⟨hWanted, hExcluded⟩ title description text negated hFilter
    cases negated with
    | false => exact hWanted text ⟨_, hFilter, title, description, rfl⟩
    | true => exact hExcluded text ⟨_, hFilter, title, description, rfl⟩
  · intro hEach
    constructor
    · rintro text ⟨_, hFilter, title, description, rfl⟩
      exact hEach title description text false hFilter
    · rintro text ⟨_, hFilter, title, description, rfl⟩
      exact hEach title description text true hFilter

/-- The conditions select the documents that match the text, lie within the time range, are
admitted by the filter tree and respect the search filters. -/
theorem selects_conditions (inCategory : String → Bool)
    (hClauses : List.Forall₂ (fun filter clause => filter.toClause layout = .ok clause)
      query.filter.toList clauses) :
    (conditions layout query start stop clauses).selects document = true ↔
      (query.text.isMatchAll = true ∨ document.matchesText query.text.text = true) ∧
      (∃ t, document.instant? layout.timestampField = some t ∧
        start.truncated ≤ t ∧ t ≤ stop.truncated) ∧
      (∀ filter, query.filter = some filter →
        filter.holds (document.reading layout inCategory) = true) ∧
      (∀ title description text negated,
        .inline title description text negated false ∈ query.searchFilters →
          document.matchesText text = !negated) := by
  -- there is a clause that must hold and none that only should
  have hLeast : (conditions layout query start stop clauses).least = 0 := rfl
  rw [BoolQuery.selects_iff, hLeast, ← holds_filterClauses inCategory hClauses,
    ← matchesText_searchFilters, ← holds_textClause, ← holds_range_requestText]
  simp only [conditions, BoolQuery.withTexts, List.cons_append, List.nil_append,
    List.forall_mem_cons, List.forall_mem_append, List.forall_mem_map, Clause.holds_queryString,
    Nat.zero_le, and_true]
  tauto

/-- Of all clauses only those for the filter tree ask for streams. -/
theorem mem_filterStreams_of_conditions {fields : List String} {stream : String}
    (hClauses : List.Forall₂ (fun filter clause => filter.toClause layout = .ok clause)
      query.filter.toList clauses)
    (hStream : stream ∈ (conditions layout query start stop clauses).valuesIn fields) :
    stream ∈ query.filterStreams := by
  have hText : Clause.valuesIn fields (textClause query.text) = [] := by
    unfold textClause
    split <;> simp
  obtain ⟨clause, hClause, hValue⟩ := BoolQuery.mem_valuesIn.mp hStream
  simp only [conditions, BoolQuery.withTexts, List.mem_append, List.mem_cons, List.mem_map,
    List.not_mem_nil, or_false, List.nil_append] at hClause
  rcases hClause with (((rfl | hTree) | ⟨text, -, rfl⟩) | rfl) | ⟨text, -, rfl⟩
  · rw [Clause.valuesIn_range] at hValue
    contradiction
  · obtain ⟨filter, hFilter, hTranslated⟩ := exists_mem_of_forall₂ hClauses hTree
    rw [Option.mem_toList] at hFilter
    rw [Query.filterStreams, hFilter]
    exact Filter.mem_streamIds_of_toClause hTranslated hValue
  · rw [Clause.valuesIn_queryString] at hValue
    contradiction
  · rw [hText] at hValue
    contradiction
  · rw [Clause.valuesIn_queryString] at hValue
    contradiction

end Conditions

/-- A query without categories and without enabled filters that are stored elsewhere has a context
as soon as its time range resolves, and the base of its requests, written out as JSON, selects
exactly the documents that the query describes.  What the document is said to be in by category
plays no role. -/
theorem ofQuery_exact {layout : IndexLayout} {now start stop : Instant} {query : Query}
    (hCategories : query.filterCategories = ∅)
    (hStored : ∀ id negated, ¬ .stored id negated false ∈ query.searchFilters)
    (hRange : query.timeRange.resolve now = .ok (start, stop)) :
    ∃ context, ofQuery layout now query = .ok context ∧
      ∀ (document : Document) (inCategory : String → Bool),
        Clause.holds document context.base.query.toJson = true ↔
          (query.text.isMatchAll = true ∨ document.matchesText query.text.text = true) ∧
          (∃ t, document.instant? layout.timestampField = some t ∧
            start.truncated ≤ t ∧ t ≤ stop.truncated) ∧
          (∀ filter, query.filter = some filter →
            filter.holds (document.reading layout inCategory) = true) ∧
          (∀ title description text negated,
            .inline title description text negated false ∈ query.searchFilters →
              document.matchesText text = !negated) := by
  have hLoaded : ∀ filter ∈ query.searchFilters, filter.NeedsNoLoading := by
    intro filter hFilter hIsStored
    cases filter with
    | inline => contradiction
    | stored id negated disabled =>
      cases disabled with
      | false => exact absurd hFilter (hStored id negated)
      | true => rfl
  obtain ⟨clauses, hClauses⟩ : ∃ clauses,
      List.Forall₂ (fun filter clause => filter.toClause layout = .ok clause)
        query.filter.toList clauses := by
    refine exists_forall₂ fun filter hFilter => Filter.toClause_succeeds layout fun name hName => ?_
    rw [Option.mem_toList] at hFilter
    rw [Query.filterCategories, hFilter] at hCategories
    simp [hCategories] at hName
  exact ⟨_, ofQuery_eq_ok_iff.mpr ⟨start, stop, clauses, hRange, hClauses, hLoaded, rfl⟩,
    fun document inCategory => selects_conditions inCategory hClauses⟩

/-- A query with all parts, over all time. -/
theorem ofQuery_exact_of_all_parts :
    let query : Query :=
      { id := "q", timeRange := .relative 0, text := ⟨"level:3"⟩
        filter := some (.and [.stream "all", .or [.stream "web", .queryString "error"]])
        searchFilters := [.inline none none "login" false false,
          .inline none none "debug" true false, .inline none none "trace" true true,
          .stored "saved" false true]
        searchTypes := [], override := none }
    ∃ context, ofQuery {} .last query = .ok context ∧ ∀ document : Document,
      Clause.holds document context.base.query.toJson = true ↔
        document.matchesText "level:3" = true ∧
        (∃ t, document.instant? "timestamp" = some t ∧
          Instant.epoch.truncated ≤ t ∧ t ≤ Instant.last.truncated) ∧
        ("all" ∈ document.values "streams" ∧
          ("web" ∈ document.values "streams" ∨ document.matchesText "error" = true)) ∧
        document.matchesText "login" = true ∧ document.matchesText "debug" = false := by
  intro query
  have hText : query.text.isMatchAll = false := by decide
  have hStored : ∀ id negated, ¬ .stored id negated false ∈ query.searchFilters := by
    simp [query]
  obtain ⟨context, hContext, hSelects⟩ :=
    @ofQuery_exact {} .last .epoch .last query rfl hStored rfl
  refine ⟨context, hContext, fun document => ?_⟩
  have hFilter : (∀ filter, query.filter = some filter →
      filter.holds (document.reading {} fun _ => false) = true) ↔
        "all" ∈ document.values "streams" ∧
          ("web" ∈ document.values "streams" ∨ document.matchesText "error" = true) := by
    simp [query, Document.reading, Document.inStream]
  have hTexts : (∀ title description text negated,
      .inline title description text negated false ∈ query.searchFilters →
        document.matchesText text = !negated) ↔
          document.matchesText "login" = true ∧ document.matchesText "debug" = false := by
    rw [← matchesText_searchFilters]
    simp [query, SearchFilter.wantedText?, SearchFilter.excludedText?, List.filterMap_cons]
  rw [hSelects document fun _ => false, hFilter, hTexts, hText]
  simp [query]

end QueryContext

end LogSearch
