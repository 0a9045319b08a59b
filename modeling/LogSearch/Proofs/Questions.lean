import LogSearch.Catalog
import LogSearch.Query
import LogSearch.Proofs.FilterMeaning
import LogSearch.Proofs.Names
import LogSearch.Proofs.Outcome

/-!
# Questions to the directory

What is to be asked about a filter tree can be written down without expanding it:
about one category leaf after the other, which streams the category has, and then
of each of these streams whether it may be read.  `Filter.questions` is this list.
Expansion asks no more, in this order, and stops behind the first question that is
not answered, which is what it reports.

`Consult.Poses` says so of any operation and any list of questions.  An operation
made of others poses their questions one list behind the other, as long as the
questions of the later ones do not depend on more than the directory.

The order in which streams are listed for a category does not matter, nor does a
stream that is listed twice: neither the questions nor the result change
(`Filter.expand_congr`).
-/

namespace LogSearch

/-- The directory fails to answer a question, in the given way. -/
inductive Question.Fails (directory : Directory) : Question → SearchError → Prop
  | streamsOf {categories : NameSet} {reason : String}
      (h : directory.streamsOf categories = .error reason) :
      Fails directory (.streamsOf categories) (.lookupFailed reason)
  | mayRead {stream : String} {reason : String} (h : directory.mayRead stream = .error reason) :
      Fails directory (.mayRead stream) (.checkFailed reason)

/-- An operation fails exactly if a question that it asks is not answered, and in the way in which
the first such question is not. -/
def Consult.Relays {α : Type} (directory : Directory) (consult : Consult α) : Prop :=
  FailsBy consult.outcome (Question.Fails directory) consult.asked

/-! ### Asking until there is no answer -/

namespace Directory

/-- Whether a question is answered. -/
def answers (directory : Directory) : Question → Bool
  | .streamsOf categories => (directory.streamsOf categories).isOk
  | .mayRead stream => (directory.mayRead stream).isOk

/-- Questions up to the first that is not answered; that one is still asked. -/
def untilFailure (directory : Directory) : List Question → List Question
  | [] => []
  | first :: rest =>
    if directory.answers first then first :: untilFailure directory rest else [first]

variable {directory : Directory}

theorem answers_eq_true_iff {question : Question} :
    directory.answers question = true ↔ ∀ error, ¬ question.Fails directory error := by
  cases question with
  | streamsOf categories =>
    rw [answers]
    cases hAnswer : directory.streamsOf categories with
    | ok streams =>
      refine iff_of_true rfl fun error hFails => ?_
      cases hFails with
      | streamsOf h => simp [hAnswer] at h
    | error reason => exact iff_of_false Bool.false_ne_true fun h => h _ (.streamsOf hAnswer)
  | mayRead stream =>
    rw [answers]
    cases hAnswer : directory.mayRead stream with
    | ok allowed =>
      refine iff_of_true rfl fun error hFails => ?_
      cases hFails with
      | mayRead h => simp [hAnswer] at h
    | error reason => exact iff_of_false Bool.false_ne_true fun h => h _ (.mayRead hAnswer)

@[simp]
theorem untilFailure_singleton (question : Question) :
    directory.untilFailure [question] = [question] := by
  rw [untilFailure]
  split <;> rfl

theorem untilFailure_append (questions others : List Question) :
    directory.untilFailure (questions ++ others) =
      if questions.all directory.answers then questions ++ directory.untilFailure others
      else directory.untilFailure questions := by
  induction questions with
  | nil => simp
  | cons first rest ih =>
    cases hFirst : directory.answers first with
    | false => simp [untilFailure, hFirst]
    | true =>
      simp only [List.cons_append, untilFailure, hFirst, if_true, List.all_cons, Bool.true_and, ih]
      split <;> rfl

theorem untilFailure_of_answered {questions : List Question}
    (h : questions.all directory.answers = true) :
    directory.untilFailure questions = questions := by
  have hAppend := directory.untilFailure_append questions []
  rwa [List.append_nil, if_pos h, untilFailure, List.append_nil] at hAppend

/-- The first failure is among the questions that are asked. -/
theorem firstFailure_untilFailure_iff {questions : List Question} {error : SearchError} :
    FirstFailure (Question.Fails directory) (directory.untilFailure questions) error ↔
      FirstFailure (Question.Fails directory) questions error := by
  induction questions with
  | nil => rfl
  | cons first rest ih =>
    cases hFirst : directory.answers first with
    | true => rw [untilFailure, if_pos hFirst, firstFailure_cons_iff, firstFailure_cons_iff, ih]
    | false =>
      have hFails : ¬ ∀ other, ¬ first.Fails directory other := by
        rw [← answers_eq_true_iff, hFirst]
        exact Bool.false_ne_true
      simp [untilFailure, hFirst, firstFailure_cons_iff, hFails]

end Directory

/-- An operation asks the given questions until one is not answered.  It fails exactly if there is
such a question, and in the way in which the first one is not answered. -/
structure Consult.Poses {α : Type} (directory : Directory) (questions : List Question)
    (consult : Consult α) : Prop where
  asked : consult.asked = directory.untilFailure questions
  fails : FailsBy consult.outcome (Question.Fails directory) questions

section Poses

variable {α β : Type} {directory : Directory} {questions others : List Question}

namespace Consult

theorem Poses.relays {consult : Consult α} (h : consult.Poses directory questions) :
    consult.Relays directory := by
  intro error
  rw [h.asked, Directory.firstFailure_untilFailure_iff]
  exact h.fails error

theorem Poses.exists_ok_iff {consult : Consult α} (h : consult.Poses directory questions) :
    (∃ value, consult.outcome = .ok value) ↔ questions.all directory.answers = true := by
  have hFails : (∀ error, consult.outcome ≠ .error error) ↔
      ∀ error, ¬ FirstFailure (Question.Fails directory) questions error :=
    forall_congr' fun error => not_congr (h.fails error)
  rw [← forall_ne_error_iff, hFails, forall_not_firstFailure_iff, List.all_eq_true]
  simp only [Directory.answers_eq_true_iff]

theorem poses_pure (value : α) : (pure value : Consult α).Poses directory [] :=
  ⟨rfl, failsBy_pure value⟩

/-- The questions of what comes later are only asked if those before have all been answered. -/
theorem Poses.bind {first : Consult α} {next : α → Consult β}
    (hFirst : first.Poses directory questions)
    (hNext : ∀ value, first.outcome = .ok value → (next value).Poses directory others) :
    (first >>= next).Poses directory (questions ++ others) := by
  constructor
  · rw [Directory.untilFailure_append]
    cases hOutcome : first.outcome with
    | ok value =>
      have hAnswered := hFirst.exists_ok_iff.mp ⟨value, hOutcome⟩
      rw [bind_of_ok hOutcome, if_pos hAnswered, hFirst.asked, (hNext value hOutcome).asked,
        Directory.untilFailure_of_answered hAnswered]
    | error error =>
      have hUnanswered : ¬ questions.all directory.answers = true := by
        rw [← hFirst.exists_ok_iff, hOutcome]
        simp
      rw [bind_of_error hOutcome, if_neg hUnanswered, hFirst.asked]
  · rw [outcome_bind]
    exact hFirst.fails.bind fun value hValue => (hNext value hValue).fails

theorem Poses.bind_pure {first : Consult α} {f : α → β} (h : first.Poses directory questions) :
    (first >>= fun value => pure (f value)).Poses directory questions := by
  have hBind : (first >>= fun value => pure (f value)).Poses directory (questions ++ []) :=
    h.bind fun value _ => poses_pure (f value)
  rwa [List.append_nil] at hBind

end Consult

end Poses

/-! ### Expansion -/

/-- The questions about a category: which streams it has, and whether these may be read, each asked
once and in ascending order. -/
def Directory.questionsAbout (directory : Directory) (category : String) : List Question :=
  .streamsOf (.singleton category) :: match directory.streamsOf (.singleton category) with
    | .ok streams => (NameSet.ofList streams).toList.map .mayRead
    | .error _ => []

/-- The questions about a filter tree: those about its category leaves, from the left. -/
def Filter.questions (directory : Directory) (filter : Filter) : List Question :=
  (filter.nodes.filterMap categoryName?).flatMap directory.questionsAbout

section Expansion

variable {directory : Directory}

namespace Directory

theorem poses_askStreams (categories : NameSet) :
    (directory.askStreams categories).Poses directory [.streamsOf categories] := by
  refine ⟨(untilFailure_singleton _).symm, failsBy_singleton fun error => ?_⟩
  simp only [askStreams]
  constructor
  · intro h
    cases hAnswer : directory.streamsOf categories with
    | ok streams => simp [hAnswer, Except.mapError] at h
    | error reason =>
      simp only [hAnswer, Except.mapError, Except.error.injEq] at h
      rw [← h]
      exact .streamsOf hAnswer
  · intro h
    cases h with
    | streamsOf hAnswer =>
      rw [hAnswer]
      rfl

theorem poses_askMayRead (stream : String) :
    (directory.askMayRead stream).Poses directory [.mayRead stream] := by
  refine ⟨(untilFailure_singleton _).symm, failsBy_singleton fun error => ?_⟩
  simp only [askMayRead]
  constructor
  · intro h
    cases hAnswer : directory.mayRead stream with
    | ok allowed => simp [hAnswer, Except.mapError] at h
    | error reason =>
      simp only [hAnswer, Except.mapError, Except.error.injEq] at h
      rw [← h]
      exact .mayRead hAnswer
  · intro h
    cases h with
    | mayRead hAnswer =>
      rw [hAnswer]
      rfl

theorem poses_readableOf (streams : List String) :
    (directory.readableOf streams).Poses directory (streams.map .mayRead) := by
  induction streams with
  | nil => exact Consult.poses_pure _
  | cons stream rest ih =>
    exact (poses_askMayRead stream).bind fun _ _ => ih.bind_pure

theorem poses_readableStreams (category : String) :
    (directory.readableStreams (.singleton category)).Poses directory
      (directory.questionsAbout category) := by
  refine (poses_askStreams (.singleton category)).bind fun streams hStreams => ?_
  rw [askStreams, mapError_eq_ok] at hStreams
  rw [hStreams]
  exact (poses_readableOf _).bind_pure

end Directory

namespace Filter

theorem questions_and (children : List Filter) :
    (Filter.and children).questions directory = children.flatMap (questions directory) := by
  rw [questions, nodes, nodesOfAll_eq_flatMap, List.filterMap_cons_none rfl, List.filterMap_flatMap,
    List.flatMap_assoc]
  rfl

theorem questions_or (children : List Filter) :
    (Filter.or children).questions directory = children.flatMap (questions directory) := by
  rw [questions, nodes, nodesOfAll_eq_flatMap, List.filterMap_cons_none rfl, List.filterMap_flatMap,
    List.flatMap_assoc]
  rfl

theorem poses_expandAll {filters : List Filter}
    (hEach : ∀ filter ∈ filters, (expand directory filter).Poses directory
      (filter.questions directory)) :
    (expandAll directory filters).Poses directory (filters.flatMap (questions directory)) := by
  induction filters with
  | nil => exact Consult.poses_pure _
  | cons first rest ih =>
    obtain ⟨hFirst, hRest⟩ := List.forall_mem_cons.mp hEach
    rw [List.flatMap_cons]
    exact hFirst.bind fun _ _ => (ih hRest).bind_pure

theorem poses_expand (filter : Filter) :
    (expand directory filter).Poses directory (filter.questions directory) := by
  induction filter with
  | and children ih =>
    rw [questions_and]
    exact (poses_expandAll ih).bind_pure
  | or children ih =>
    rw [questions_or]
    exact (poses_expandAll ih).bind_pure
  | stream id => exact Consult.poses_pure _
  | category name =>
    have hQuestions : (Filter.category name).questions directory =
        directory.questionsAbout name := by
      simp [questions, nodes, categoryName?]
    rw [hQuestions]
    exact (Directory.poses_readableStreams name).bind_pure
  | queryString query => exact Consult.poses_pure _

end Filter

/-- Which questions are asked depends on the filter tree alone. -/
theorem Query.asked_expandCategories (query : Query) :
    (query.expandCategories directory).asked =
      query.filter.elim [] fun filter => (filter.expand directory).asked := by
  unfold expandCategories
  cases query.filter with
  | none => rfl
  | some filter =>
    show (filter.expand directory >>= fun left => pure (query.withFilter left)).asked =
      (filter.expand directory).asked
    cases hExpand : (filter.expand directory).outcome with
    | ok left =>
      rw [Consult.bind_of_ok hExpand]
      exact List.append_nil _
    | error reason =>
      rw [Consult.bind_of_error hExpand]

theorem Query.relays_expandCategories (query : Query) :
    (query.expandCategories directory).Relays directory := by
  unfold expandCategories
  split
  · exact (Consult.poses_pure _).relays
  · exact (Filter.poses_expand _).bind_pure.relays

end Expansion

/-! ### Listings as sets -/

/-- Two answers list the same streams, in whatever order and however often, or fail for the same
reason. -/
inductive SameListing : Except String (List String) → Except String (List String) → Prop
  | listed {left right : List String} (h : ∀ stream, stream ∈ left ↔ stream ∈ right) :
      SameListing (.ok left) (.ok right)
  | failed (reason : String) : SameListing (.error reason) (.error reason)

/-- Two directories list the same streams for each category and permit the same. -/
structure Directory.Agrees (directory other : Directory) : Prop where
  listing : ∀ category, SameListing (directory.streamsOf (.singleton category))
    (other.streamsOf (.singleton category))
  mayRead : directory.mayRead = other.mayRead

section Agreement

variable {directory other : Directory}

theorem Filter.expandAll_congr {filters : List Filter}
    (hEach : ∀ filter ∈ filters, expand directory filter = expand other filter) :
    expandAll directory filters = expandAll other filters := by
  induction filters with
  | nil => rfl
  | cons first rest ih =>
    obtain ⟨hFirst, hRest⟩ := List.forall_mem_cons.mp hEach
    rw [expandAll, expandAll, hFirst, ih hRest]

variable (h : directory.Agrees other)
include h

namespace Directory

theorem Agrees.readableOf (streams : List String) :
    directory.readableOf streams = other.readableOf streams := by
  induction streams with
  | nil => rfl
  | cons stream rest ih =>
    simp only [Directory.readableOf, ih, askMayRead, h.mayRead]

/-- The streams of a category are put in order before any of them is asked about. -/
theorem Agrees.readableStreams (category : String) :
    directory.readableStreams (.singleton category) =
      other.readableStreams (.singleton category) := by
  have hListing := h.listing category
  simp only [Directory.readableStreams, askStreams, h.readableOf]
  generalize directory.streamsOf (.singleton category) = left at hListing ⊢
  generalize other.streamsOf (.singleton category) = right at hListing ⊢
  cases hListing with
  | listed hSame =>
    refine (Consult.bind_of_ok rfl _).trans (Eq.trans ?_ (Consult.bind_of_ok rfl _).symm)
    rw [NameSet.ofList_eq_ofList_iff.mpr hSame]
  | failed reason => rfl

end Directory

namespace Filter

theorem expand_congr (filter : Filter) : expand directory filter = expand other filter := by
  induction filter with
  | and children ih => rw [expand, expand, expandAll_congr ih]
  | or children ih => rw [expand, expand, expandAll_congr ih]
  | stream id => rfl
  | category name => rw [expand, expand, h.readableStreams]
  | queryString query => rfl

end Filter

end Agreement

namespace Filter

/-- Expansion asks the questions about a filter tree until one is not answered, and it fails exactly
if there is such a question, in the way in which the first one is not answered.  Of a directory's
listings it only matters which streams they contain. -/
theorem expand_asks_in_order (directory : Directory) (filter : Filter) :
    (expand directory filter).asked = directory.untilFailure (filter.questions directory) ∧
      ((∃ error, (expand directory filter).outcome = .error error) ↔
        ∃ question ∈ filter.questions directory, directory.answers question = false) ∧
      (∀ error, (expand directory filter).outcome = .error error ↔
        FirstFailure (Question.Fails directory) (filter.questions directory) error) ∧
      ∀ other, directory.Agrees other → expand other filter = expand directory filter := by
  have hPoses : (expand directory filter).Poses directory (filter.questions directory) :=
    poses_expand filter
  refine ⟨hPoses.asked, ?_, hPoses.fails, fun other hAgrees => (expand_congr hAgrees filter).symm⟩
  have hSucceeds := not_congr hPoses.exists_ok_iff
  rw [← forall_ne_error_iff, List.all_eq_true] at hSucceeds
  simpa using hSucceeds

/-- The streams of one category are listed in different orders and with a repetition.  The other one
is not known, which ends the expansion before the first is asked about again. -/
theorem expand_asks_in_order_of_reordered :
    let directory (listing : List String) : Directory :=
      { streamsOf := fun categories =>
          if "web" ∈ categories then .ok listing else .error "unknown"
        mayRead := fun stream => .ok (stream == "front") }
    let filter : Filter :=
      .and [.category "web", .or [.stream "all", .category "mail"], .category "web"]
    let expanded := expand (directory ["front", "back", "front"]) filter
    expanded.asked =
        [.streamsOf (.singleton "web"), .mayRead "back", .mayRead "front",
          .streamsOf (.singleton "mail")] ∧
      expanded.outcome = .error (.lookupFailed "unknown") ∧
      expand (directory ["back", "front"]) filter = expanded := by
  intro directory filter expanded
  have hAgrees : (directory ["front", "back", "front"]).Agrees (directory ["back", "front"]) := by
    refine ⟨fun category => ?_, rfl⟩
    show SameListing (if _ then _ else _) (if _ then _ else _)
    split
    · exact .listed (by simp [or_comm, or_left_comm])
    · exact .failed "unknown"
  obtain ⟨hAsked, -, -, hSame⟩ := expand_asks_in_order (directory ["front", "back", "front"]) filter
  exact ⟨hAsked.trans (by decide), by decide, hSame _ hAgrees⟩

end Filter

end LogSearch
