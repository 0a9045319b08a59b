import LogSearch.Directory
import LogSearch.Filter

/-!
# Expanding categories

Before a query can run, every leaf that asks for a category is replaced by the
disjunction of the category's streams that the caller may read.  A leaf of which
no stream is left disappears, and so does an inner node of which no child is
left; an inner node with one child left stays an inner node.
-/

namespace LogSearch

namespace Filter

/-- An inner node over what is left of its children, if anything is. -/
def gather (node : List Filter → Filter) (children : List Filter) : Option Filter :=
  if children.isEmpty then none else some (node (distinct children))

mutual

/-- A filter with its categories replaced by readable streams, if anything of it is left. -/
def expand (directory : Directory) : Filter → Consult (Option Filter)
  | .category name => do
    let streams ← directory.readableStreams (.singleton name)
    return gather .or (streams.toList.map .stream)
  | .and children => do
    let left ← expandAll directory children
    return gather .and left
  | .or children => do
    let left ← expandAll directory children
    return gather .or left
  | .stream id => pure (some (.stream id))
  | .queryString query => pure (some (.queryString query))

/-- What is left of a list of filters, expanded from the left. -/
def expandAll (directory : Directory) : List Filter → Consult (List Filter)
  | [] => pure []
  | first :: rest => do
    let head ← expand directory first
    let tail ← expandAll directory rest
    return match head with
      | some filter => filter :: tail
      | none => tail

end

end Filter

end LogSearch
