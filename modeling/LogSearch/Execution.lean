import LogSearch.Plan

/-!
# Execution

Executing queries means planning all of them, submitting every request, and
reading every answer as the result of the search type it was asked for.  Nothing
is submitted unless everything could be planned, and the first request in the
order of the plan that failed, or whose answer does not fit, is the one that is
reported.  Like the questions to the directory, the requests are noted where they
are made.
-/

namespace LogSearch

/-- The results of one query, by the ids of its search types. -/
structure QueryResult where
  queryId : String
  searchTypes : Keyed SearchResult

/-- The requests that an operation submitted to the backend, and what came of it. -/
structure Submission (α : Type) where
  /-- The requests, in the order in which they were submitted. -/
  submitted : List PlannedRequest
  /-- The result of the operation. -/
  outcome : α

namespace Submission

variable {α β : Type}

instance : Monad Submission where
  pure value := ⟨[], value⟩
  bind first next :=
    ⟨first.submitted ++ (next first.outcome).submitted, (next first.outcome).outcome⟩

@[simp]
theorem submitted_pure (value : α) : (pure value : Submission α).submitted = [] :=
  rfl

@[simp]
theorem outcome_pure (value : α) : (pure value : Submission α).outcome = value :=
  rfl

@[simp]
theorem submitted_bind (first : Submission α) (next : α → Submission β) :
    (first >>= next).submitted = first.submitted ++ (next first.outcome).submitted :=
  rfl

@[simp]
theorem outcome_bind (first : Submission α) (next : α → Submission β) :
    (first >>= next).outcome = (next first.outcome).outcome :=
  rfl

end Submission

/-- A backend: its answer to the request at a place of the plan, or a reason why there is none. -/
abbrev Backend := Nat → PlannedRequest → Except String Response

namespace Backend

/-- Submit the request at a place of the plan. -/
def submit (backend : Backend) (place : Nat) (request : PlannedRequest) :
    Submission (Except String Response) :=
  ⟨[request], backend place request⟩

/-- Submit requests whose places in the plan start at a given one.  All of them are submitted,
whether or not the others are answered. -/
def submitAll (backend : Backend) (place : Nat) :
    List PlannedRequest → Submission (List (Except String Response))
  | [] => pure []
  | request :: rest => do
    let answer ← backend.submit place request
    let others ← submitAll backend (place + 1) rest
    return answer :: others

end Backend

namespace Planner

/-- The results of requests of one query, each with its answer. -/
def collectRequests (planner : Planner) (planned : PlannedQuery) (results : Keyed SearchResult) :
    List (PlannedRequest × Except String Response) → Attempt (Keyed SearchResult)
  | [] => .ok results
  | (request, answer) :: rest => do
    let response ← answer.mapError .backendFailed
    let result ← planner.extract planned request.searchTypeId response
    collectRequests planner planned (results.insert request.searchTypeId result) rest

/-- The results of planned queries, given the answers to their requests in the order of the
plan. -/
def collect (planner : Planner) :
    List PlannedQuery → List (Except String Response) → Attempt (List QueryResult)
  | [], _ => .ok []
  | planned :: rest, answers => do
    let searchTypes ← planner.collectRequests planned ∅ (planned.requests.zip answers)
    let others ← collect planner rest (answers.drop planned.requests.length)
    return ⟨planned.query.id, searchTypes⟩ :: others

/-- Submit the requests of planned queries, and collect the results once all are answered. -/
def submitPlan (planner : Planner) (backend : Backend) (plan : List PlannedQuery) :
    Submission (Attempt (List QueryResult)) := do
  let answers ← backend.submitAll 0 (plan.flatMap PlannedQuery.requests)
  return planner.collect plan answers

/-- Execute queries. -/
def execute (planner : Planner) (directory : Directory) (now : Instant) (backend : Backend)
    (state : RunState) (queries : List Query) :
    List Question × Submission (Attempt (List QueryResult)) :=
  let planning := planner.plan directory now state queries
  match planning.outcome with
  | .error error => (planning.asked, pure (.error error))
  | .ok plan => (planning.asked, planner.submitPlan backend plan)

end Planner

end LogSearch
