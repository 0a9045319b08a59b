import LogSearch.Directory
import LogSearch.IndexLayout

/-!
# Static catalogs

A catalog stands in for the stream directory when queries are planned without
one: it lists the streams of each category and the streams that may be read, and
it knows the layout of the index.  A category it does not list has no streams.
-/

namespace LogSearch

/-- A fixed list of categories and permissions, with the layout of the index. -/
structure Catalog where
  /-- The layout of the index. -/
  layout : IndexLayout := {}
  /-- The streams of each category, as listed. -/
  categories : Keyed (List String) := ∅
  /-- Whether every stream may be read. -/
  allowAll : Bool := true
  /-- The streams that may be read if not all may. -/
  allowed : NameSet := ∅
  deriving Inhabited

namespace Catalog

/-- The streams of some categories, category by category and as listed. -/
def streamsOf (catalog : Catalog) (categories : NameSet) : List String :=
  categories.toList.flatMap fun category => (catalog.categories.get? category).getD []

/-- Whether a stream may be read. -/
def mayRead (catalog : Catalog) (stream : String) : Bool :=
  catalog.allowAll || stream ∈ catalog.allowed

/-- The catalog as a directory, which never fails. -/
def directory (catalog : Catalog) : Directory where
  streamsOf categories := .ok (catalog.streamsOf categories)
  mayRead stream := .ok (catalog.mayRead stream)

/-- The fields of the permissions of a catalog. -/
def permissionFields : List (Json.Field (Bool × NameSet)) := [
  ⟨"allow_all", false, fun permissions value => do return (← value.asBool, permissions.2)⟩,
  ⟨"allowed_streams", false, fun permissions value => do
    return (permissions.1, ← value.asNames)⟩]

/-- The fields of a catalog. -/
def fields : List (Json.Field Catalog) := [
  ⟨"backend", false, fun catalog value => do
    return { catalog with layout := ← IndexLayout.ofJson value }⟩,
  ⟨"categories", false, fun catalog value => do
    return { catalog with categories := ← value.asKeyed (Json.asList Json.asText) }⟩,
  ⟨"permissions", false, fun catalog value => do
    let (allowAll, allowed) ← value.asRecord permissionFields (true, ∅)
    return { catalog with allowAll, allowed }⟩]

/-- Read a catalog. -/
def ofJson (value : Json) : Attempt Catalog := value.asRecord fields {}

end Catalog

end LogSearch
