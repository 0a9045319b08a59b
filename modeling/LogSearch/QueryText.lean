import LogSearch.Json.Shape
import LogSearch.Json.Writer

/-!
# Query texts

The free text of a query, in the language of the backend.  A text may refer to
parameters of the request by names between dollar signs.  A text is read from
the left: where a whole reference starts it is taken as such, otherwise one
character is taken, so a dollar sign that closes a reference cannot open
another.
-/

namespace LogSearch

/-- The free text of a query. -/
structure QueryText where
  /-- The text itself. -/
  text : String
  deriving DecidableEq, Inhabited

namespace QueryText

/-- The text of a query that declares none. -/
def empty : QueryText := ⟨""⟩

/-- The language that query texts are written in. -/
def language : String := "elasticsearch"

/-- Whether the text matches every document: it is blank or a lone star. -/
def isMatchAll (query : QueryText) : Bool :=
  let trimmed := Text.trim query.text.toList
  trimmed.isEmpty || trimmed == ['*']

/-! ### Parameters -/

/-- A part of a text: a character that stands for itself, or a reference to a parameter. -/
inductive Piece
  | literal (c : Char)
  | parameter (name : String)
  deriving DecidableEq

/-- Whether a parameter's name can start with a character. -/
def isNameStart (c : Char) : Bool :=
  ('a' ≤ c && c ≤ 'z') || ('A' ≤ c && c ≤ 'Z') || c == '_'

/-- Whether a parameter's name can go on with a character. -/
def isNamePart (c : Char) : Bool :=
  isNameStart c || ('0' ≤ c && c ≤ '9')

/-- What follows the opening dollar sign of a reference: the name, and the rest of the text
behind the closing dollar sign. -/
def reference? : List Char → Option (List Char × List Char)
  | [] => none
  | c :: rest =>
    if isNameStart c then
      match rest.dropWhile isNamePart with
      | '$' :: after => some (c :: rest.takeWhile isNamePart, after)
      | _ => none
    else none

theorem length_reference? {cs name rest : List Char} (h : reference? cs = some (name, rest)) :
    rest.length < cs.length := by
  cases cs with
  | nil => simp [reference?] at h
  | cons c tail =>
    simp only [reference?] at h
    split at h
    · split at h
      · next after hDrop =>
        obtain ⟨-, rfl⟩ := Prod.mk.inj (Option.some.inj h)
        have hLe := (List.dropWhile_suffix isNamePart (l := tail)).length_le
        rw [hDrop] at hLe
        simp only [List.length_cons] at hLe ⊢
        omega
      · simp at h
    · simp at h

/-- The parts of a text, from the left. -/
def pieces : List Char → List Piece
  | [] => []
  | c :: rest =>
    if c = '$' then
      match _h : reference? rest with
      | some (name, after) => .parameter (String.ofList name) :: pieces after
      | none => .literal c :: pieces rest
    else .literal c :: pieces rest
termination_by cs => cs.length
decreasing_by
  · have := length_reference? _h
    simp only [List.length_cons]
    omega
  all_goals simp

/-- The name that a part refers to. -/
def Piece.name? : Piece → Option String
  | .literal _ => none
  | .parameter name => some name

/-- The parameters that the text refers to. -/
def usedParameters (query : QueryText) : NameSet :=
  NameSet.ofList ((pieces query.text.toList).filterMap Piece.name?)

/-- How a parameter's value stands in a text: a text as it is, any other value as JSON. -/
def valueText : Json → String
  | .str text => text
  | value => value.compact

/-- A part of a text with the parameters' values put in. -/
def Piece.render (bindings : Keyed Json) : Piece → String
  | .literal c => String.singleton c
  | .parameter name => match bindings.get? name with
    | some value => valueText value
    | none => "$" ++ name ++ "$"

/-- The text with every parameter replaced by its value.  Of several parameters without a value
the least one is reported. -/
def bind (bindings : Keyed Json) (query : QueryText) : Attempt QueryText :=
  match query.usedParameters.toList.find? fun name => !bindings.contains name with
  | some name => .error (.unboundParameter name)
  | none => .ok ⟨String.join ((pieces query.text.toList).map (Piece.render bindings))⟩

/-! ### JSON -/

/-- The JSON form of a query text. -/
def toJson (query : QueryText) : Json :=
  .obj [("type", .str language), ("query_string", .str query.text)]

/-- Read a query text: a bare text, or an object that may name the language. -/
def ofJson : Json → Attempt QueryText
  | .str text => .ok ⟨text⟩
  | .obj entries =>
    let named : Attempt (Option String) := match entries.lookup "type" with
      | none | some .null => .ok none
      | some (.str name) => .ok (some name)
      | some _ => Json.fail .noForm
    let body : Attempt String := match entries.lookup "query_string" with
      | none => .ok ""
      | some (.str text) => .ok text
      | some _ => Json.fail .noForm
    do
      let name ← named
      let text ← body
      match name with
      | none => return ⟨text⟩
      | some name =>
        if name = language then return ⟨text⟩ else .error (.unknownTag .queryText name)
  | _ => Json.fail .noForm

end QueryText

end LogSearch
