import LogSearch.Request.Refinement
import LogSearch.Result.Extraction

/-!
# Served kinds

A handler turns search types of one kind into requests and responses into
results.  A registry says which kinds are served at all; a search type of
another kind is refused.
-/

namespace LogSearch

/-- The handler of one kind of search type. -/
structure Handler where
  /-- The kind that the handler serves. -/
  kind : SearchKind
  deriving DecidableEq

namespace Handler

/-- Refuse a search type of another kind. -/
def accept (handler : Handler) (search : SearchType) : Attempt Unit :=
  if search.kind = handler.kind then .ok ()
  else .error (.wrongKind handler.kind search.kind)

/-- The request for a search type. -/
def request (handler : Handler) (context : QueryContext) (search : SearchType) :
    Attempt SearchBody := do
  handler.accept search
  search.request context

/-- The result of a search type. -/
def result (handler : Handler) (search : SearchType) (response : Response) :
    Attempt SearchResult := do
  handler.accept search
  search.result response

end Handler

/-- The handlers that are in use, at most one for each kind. -/
structure Registry where
  /-- The handler of a kind. -/
  handler? : SearchKind → Option Handler

namespace Registry

/-- The registry without handlers. -/
def empty : Registry := ⟨fun _ => none⟩

/-- The registry with a handler put in use for its kind. -/
def register (registry : Registry) (handler : Handler) : Registry :=
  ⟨fun kind => if kind = handler.kind then some handler else registry.handler? kind⟩

/-- The registry with handlers for the given kinds. -/
def ofKinds (kinds : List SearchKind) : Registry :=
  kinds.foldl (fun registry kind => registry.register ⟨kind⟩) empty

/-- The registry with handlers for all kinds. -/
def default : Registry := ofKinds SearchKind.all

instance : Inhabited Registry := ⟨default⟩

/-- The kinds that are served. -/
def kinds (registry : Registry) : List SearchKind :=
  SearchKind.all.filter fun kind => (registry.handler? kind).isSome

/-- The handler for a search type. -/
def handlerFor (registry : Registry) (search : SearchType) : Attempt Handler :=
  match registry.handler? search.kind with
  | some handler => .ok handler
  | none => .error (.unsupported search.kind)

/-- The request for a search type. -/
def request (registry : Registry) (context : QueryContext) (search : SearchType) :
    Attempt SearchBody := do
  (← registry.handlerFor search).request context search

/-- The result of a search type. -/
def result (registry : Registry) (search : SearchType) (response : Response) :
    Attempt SearchResult := do
  (← registry.handlerFor search).result search response

end Registry

end LogSearch
