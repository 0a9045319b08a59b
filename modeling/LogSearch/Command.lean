import LogSearch.Catalog
import LogSearch.Json.Reader
import LogSearch.Plan
import LogSearch.Query.Document
import LogSearch.Text.Width

/-!
# Commands

The commands inspect queries without a backend: they show queries with a state
applied or with categories expanded, list the streams that have to be permitted,
print the requests that a plan would send, and read a response as a result.  A
command names the files it works on; a file is a name and its text, if there is
such a file.
-/

namespace LogSearch

/-- A named file, with its text if it exists. -/
structure File where
  name : String
  text : Option String

/-- What to do. -/
inductive Command
  /-- Show queries with a state applied. -/
  | apply (queries : File) (state : Option File)
  /-- Show queries with their categories expanded. -/
  | expand (queries : File)
  /-- List the streams that queries name. -/
  | streams (queries : File)
  /-- Show the requests of a plan. -/
  | plan (queries : File) (state : Option File)
  /-- Show the result that a response holds for a search type. -/
  | extract (queries : File) (state : Option File) (searchType : String) (response : File)

/-- Why a command fails. -/
inductive CommandError
  /-- A file does not exist. -/
  | noFile (name : String)
  /-- No query has the search type asked for. -/
  | noOwner (searchType : String)
  /-- Anything that can go wrong with queries. -/
  | search (error : SearchError)
  deriving DecidableEq

/-- The wording of a command's failure. -/
def CommandError.message : CommandError → String
  | noFile name => "cannot read " ++ name ++ ": No such file or directory (os error 2)"
  | noOwner searchType => "no query contains search type '" ++ searchType ++ "'"
  | search error => error.message

/-- What a command yields. -/
inductive Output
  /-- A value, to be printed over several lines. -/
  | json (value : Json)
  /-- The lines of a table. -/
  | lines (lines : List String)

/-- The text that is printed of what a command yields. -/
def Output.text : Output → String
  | .json value => value.pretty 0
  | .lines texts => "\n".intercalate texts

/-- What a command works with besides its files. -/
structure Setting where
  /-- Categories, permissions and layout. -/
  catalog : Catalog := {}
  /-- The moment of the run. -/
  now : Instant
  /-- New ids for the queries read, by their places. -/
  fresh : Nat → FreshIds

/-! ### Reading files -/

namespace File

/-- A result about queries as a result of a command. -/
def lift {α : Type} (outcome : Attempt α) : Except CommandError α :=
  outcome.mapError .search

/-- Read a file as JSON. -/
def readJson (file : File) : Except CommandError Json :=
  match file.text with
  | none => .error (.noFile file.name)
  | some text => match Json.read? text with
    | some value => .ok value
    | none => lift (Json.fail .malformedText)

/-- Read a file that holds a document of queries. -/
def readQueries (fresh : Nat → FreshIds) (file : File) : Except CommandError (List Query) := do
  lift (QueryDocument.read fresh (← file.readJson))

/-- Read a file that holds a state; no file stands for a state that says nothing. -/
def readState (file : Option File) : Except CommandError RunState :=
  match file with
  | none => .ok .empty
  | some file => do lift (RunState.ofJson (← file.readJson))

/-- Read a file that holds a response. -/
def readResponse (file : File) : Except CommandError Response := do
  lift (Response.ofJson (← file.readJson))

end File

/-! ### Tables -/

namespace Table

/-- A cell as lines of text. -/
def cellLines (cell : String) : List (List Char) :=
  Text.splitOn '\n' cell.toList

/-- The width of a cell: that of its widest line. -/
def cellWidth (cell : String) : Nat :=
  (cellLines cell).foldl (fun widest line => max widest (Text.width line)) 0

/-- The widths of the columns. -/
def columnWidths : List (List String) → List Nat
  | [] => []
  | [row] => row.map cellWidth
  | row :: rest => List.zipWith (fun cell width => max (cellWidth cell) width) row
      (columnWidths rest)

/-- A text filled up with spaces. -/
def fill (width : Nat) (line : List Char) : List Char :=
  line ++ List.replicate (width - Text.width line) ' '

/-- The line between two rows. -/
def ruleLine (widths : List Nat) : String :=
  String.ofList ('+' :: widths.flatMap fun width => List.replicate (width + 2) '-' ++ ['+'])

/-- The lines of a row, as many as its tallest cell has. -/
def rowLines (widths : List Nat) (row : List String) : List String :=
  let cells := row.map cellLines
  let height := cells.foldl (fun tallest lines => max tallest lines.length) 0
  (List.range height).map fun place =>
    String.ofList <| '|' :: (List.zip widths cells).flatMap fun (width, lines) =>
      [' '] ++ fill width (lines.getD place []) ++ [' ', '|']

/-- A table with rules around and between its rows. -/
def render (rows : List (List String)) : List String :=
  let widths := columnWidths rows
  ruleLine widths :: rows.flatMap fun row => rowLines widths row ++ [ruleLine widths]

end Table

/-! ### Running commands -/

/-- The name a request is printed under: the ids of its query and of its search type. -/
def PlannedRequest.printedName (request : PlannedRequest) : String :=
  request.queryId ++ "/" ++ request.searchTypeId

namespace Command

/-- The planner of a setting. -/
def planner (setting : Setting) : Planner := { layout := setting.catalog.layout }

/-- The plan of the queries in a file. -/
def planFiles (setting : Setting) (queries : File) (state : Option File) :
    Except CommandError (List PlannedQuery) := do
  let queries ← queries.readQueries setting.fresh
  let state ← File.readState state
  File.lift ((planner setting).plan setting.catalog.directory setting.now state queries).outcome

/-- The bodies of all requests of a plan, by the names they are printed under. -/
def bodiesById (planned : List PlannedQuery) : Keyed Json :=
  Keyed.ofList <| (planned.flatMap PlannedQuery.requests).map fun request =>
    (request.printedName, request.body.toJson)

/-- The rows of the list of streams: each query with each stream it names. -/
def streamRows (queries : List Query) : List (List String) :=
  queries.flatMap fun query => query.namedStreams.toList.map fun stream => [query.id, stream]

/-- Run a command. -/
def run (setting : Setting) : Command → Except CommandError Output
  | .apply queries state => do
    let state ← File.readState state
    let queries ← queries.readQueries setting.fresh
    return .json (.arr (queries.map fun query => (query.applyState state).toJson))
  | .expand queries => do
    let queries ← queries.readQueries setting.fresh
    let expanded ← File.lift <| queries.mapM fun query =>
      (query.expandCategories setting.catalog.directory).outcome
    return .json (.arr (expanded.map Query.toJson))
  | .streams queries => do
    let queries ← queries.readQueries setting.fresh
    return .lines (Table.render (["query", "stream"] :: streamRows queries))
  | .plan queries state => do
    let planned ← planFiles setting queries state
    return .json (.keyed id (bodiesById planned))
  | .extract queries state searchType response => do
    let planned ← planFiles setting queries state
    match planned.find? fun entry => (entry.query.searchType? searchType).isSome with
    | none => .error (.noOwner searchType)
    | some owner =>
      let response ← response.readResponse
      let result ← File.lift ((planner setting).extract owner searchType response)
      return .json result.toJson

end Command

end LogSearch
