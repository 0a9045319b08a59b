import LogSearch.Result.Events
import LogSearch.Result.Rows

/-!
# Results from responses

The response to the request of a search type is read as the result that the
search type asks for.
-/

namespace LogSearch

namespace SearchType

/-- What a search type yields in a response. -/
def content (search : SearchType) (response : Response) : Attempt ResultContent :=
  match search.detail with
  | .messages _ => .ok (.messages response.hits)
  | .events _ => (response.hits.mapM (EventSummary.ofHit search.id)).map .events
  | .pivot pivot => (pivot.rows search.id response).map .pivot

/-- The result of a search type in a response. -/
def result (search : SearchType) (response : Response) : Attempt SearchResult := do
  return {
    id := search.id
    name := search.name
    total := response.total
    content := ← search.content response }

end SearchType

end LogSearch
