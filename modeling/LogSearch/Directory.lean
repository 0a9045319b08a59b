import LogSearch.Error
import LogSearch.NameSet

/-!
# The stream directory

Which streams belong to a category, and which streams a caller may read, is
known elsewhere.  A directory answers both questions and may fail to.  An
operation that consults it is a value that holds the questions asked, in order
and including one that failed, beside the operation's result.
-/

namespace LogSearch

/-- What answers questions about streams. -/
structure Directory where
  /-- The streams of some categories, in any order and with repetitions. -/
  streamsOf : NameSet → Except String (List String)
  /-- Whether a stream may be read. -/
  mayRead : String → Except String Bool

/-- A question to the directory. -/
inductive Question
  /-- Which streams belong to these categories? -/
  | streamsOf (categories : NameSet)
  /-- May this stream be read? -/
  | mayRead (stream : String)
  deriving DecidableEq

/-- The questions that an operation asked, and what came of it. -/
structure Consult (α : Type) where
  /-- The questions, in the order in which they were asked. -/
  asked : List Question
  /-- The result of the operation. -/
  outcome : Attempt α

namespace Consult

variable {α β : Type}

/-- A result that takes no question. -/
def ofAttempt (outcome : Attempt α) : Consult α := ⟨[], outcome⟩

/-- Go on with the result of an operation, unless it failed. -/
def andThen (first : Consult α) (next : α → Consult β) : Consult β :=
  match first.outcome with
  | .ok value => ⟨first.asked ++ (next value).asked, (next value).outcome⟩
  | .error error => ⟨first.asked, .error error⟩

instance : Monad Consult where
  pure value := ofAttempt (.ok value)
  bind := andThen

@[simp]
theorem asked_pure (value : α) : (pure value : Consult α).asked = [] :=
  rfl

@[simp]
theorem outcome_pure (value : α) : (pure value : Consult α).outcome = .ok value :=
  rfl

theorem bind_of_ok {first : Consult α} {value : α} (h : first.outcome = .ok value)
    (next : α → Consult β) :
    (first >>= next) = ⟨first.asked ++ (next value).asked, (next value).outcome⟩ := by
  show andThen first next = _
  simp [andThen, h]

theorem bind_of_error {first : Consult α} {error : SearchError}
    (h : first.outcome = .error error) (next : α → Consult β) :
    (first >>= next) = ⟨first.asked, .error error⟩ := by
  show andThen first next = _
  simp [andThen, h]

end Consult

namespace Directory

/-- Ask for the streams of some categories. -/
def askStreams (directory : Directory) (categories : NameSet) : Consult (List String) :=
  ⟨[.streamsOf categories], (directory.streamsOf categories).mapError .lookupFailed⟩

/-- Ask whether a stream may be read. -/
def askMayRead (directory : Directory) (stream : String) : Consult Bool :=
  ⟨[.mayRead stream], (directory.mayRead stream).mapError .checkFailed⟩

/-- Those of the streams that may be read, asked for one after the other. -/
def readableOf (directory : Directory) : List String → Consult (List String)
  | [] => pure []
  | stream :: rest => do
    let readable ← directory.askMayRead stream
    let others ← readableOf directory rest
    return if readable then stream :: others else others

/-- The streams of some categories that may be read; each stream is asked for once, in ascending
order. -/
def readableStreams (directory : Directory) (categories : NameSet) : Consult NameSet := do
  let streams ← directory.askStreams categories
  let readable ← directory.readableOf (NameSet.ofList streams).toList
  return NameSet.ofList readable

end Directory

end LogSearch
