import LogSearch.Error
import LogSearch.Json
import LogSearch.Number.Word

/-!
# Reading values of a given shape

A record is an object with named fields or an array of the same fields in their
declared order.  In an object the fields are read in ascending order of their
names, whatever the order of declaration, so of several faults the one under the
least name is reported; only then is it asked whether a required field is
missing, in the order of declaration.  In an array the fields are read from the
left, trailing ones may be left out unless they are required, and there must be
no further items.  Unknown fields of an object are ignored.
-/

namespace LogSearch

namespace Json

/-- Fail because of a shape error. -/
def fail {α : Type} (error : ShapeError) : Attempt α :=
  .error (.shape error)

/-! ### Single values -/

/-- Read a text. -/
def asText : Json → Attempt String
  | .str text => .ok text
  | _ => fail .wrongType

/-- Read a truth value. -/
def asBool : Json → Attempt Bool
  | .bool value => .ok value
  | _ => fail .wrongType

/-- Read a whole number in a given range. -/
def asIntIn (least most : Int) : Json → Attempt Int
  | .int n => if least ≤ n ∧ n ≤ most then .ok n else fail .outOfRange
  | _ => fail .wrongType

/-- Read a signed 64-bit number. -/
def asSigned : Json → Attempt Int :=
  asIntIn minSigned64 maxSigned64

/-- Read an unsigned 64-bit number. -/
def asUnsigned (value : Json) : Attempt Nat :=
  (asIntIn 0 maxUnsigned64 value).map Int.toNat

/-- Read an unsigned 32-bit number. -/
def asWord (value : Json) : Attempt UInt32 :=
  (asIntIn 0 maxUnsigned32 value).map fun n => n.toNat.toUInt32

/-- Read a number, whole or not. -/
def asNumber : Json → Attempt Binary64
  | .int n => .ok (.ofInt n)
  | .float x => .ok x
  | _ => fail .wrongType

/-- Read a timestamp. -/
def asInstant : Json → Attempt Instant
  | .str text => match Instant.read? text with
    | some t => .ok t
    | none => fail .noTimestamp
  | _ => fail .wrongType

/-- Read any value as it is. -/
def asAny (value : Json) : Attempt Json := .ok value

/-- Read a value that may be null. -/
def asOption {α : Type} (read : Json → Attempt α) : Json → Attempt (Option α)
  | .null => .ok none
  | value => (read value).map some

/-- Read an array, item by item. -/
def asList {α : Type} (read : Json → Attempt α) : Json → Attempt (List α)
  | .arr items => items.mapM read
  | _ => fail .wrongType

/-- Read an array of texts as a set. -/
def asNames (value : Json) : Attempt NameSet :=
  (asList asText value).map NameSet.ofList

/-- Read the fields of an object as a table. -/
def asKeyed {α : Type} (read : Json → Attempt α) : Json → Attempt (Keyed α)
  | .obj fields =>
    (fields.mapM fun entry => (read entry.2).map (entry.1, ·)).map Keyed.ofList
  | _ => fail .wrongType

/-! ### Records -/

/-- One field of a record under construction. -/
structure Field (α : Type) where
  /-- The name of the field. -/
  name : String
  /-- Whether the field must be there. -/
  required : Bool
  /-- Read the field's value into the record. -/
  read : α → Json → Attempt α

/-- Put a field in its place in a list in ascending order of the names. -/
def insertField {α : Type} (field : Field α) : List (Field α) → List (Field α)
  | [] => [field]
  | first :: rest =>
    if first.name < field.name then first :: insertField field rest else field :: first :: rest

/-- The fields in ascending order of their names. -/
def sortFields {α : Type} (fields : List (Field α)) : List (Field α) :=
  fields.foldr insertField []

/-- Read those of the fields that an object has, in the given order. -/
def readPresent {α : Type} (entries : List (String × Json)) :
    List (Field α) → α → Attempt α
  | [], record => .ok record
  | field :: rest, record =>
    match entries.lookup field.name with
    | none => readPresent entries rest record
    | some value => do readPresent entries rest (← field.read record value)

/-- The first required field that an object lacks. -/
def firstMissing? {α : Type} (entries : List (String × Json)) (fields : List (Field α)) :
    Option String :=
  (fields.find? fun field => field.required && (entries.lookup field.name).isNone).map
    Field.name

/-- Read the fields of a record from the items of an array. -/
def readInOrder {α : Type} : List (Field α) → List Json → α → Attempt α
  | [], [], record => .ok record
  | [], _ :: _, _ => fail .wrongLength
  | field :: rest, [], record =>
    if field.required then fail .wrongLength else readInOrder rest [] record
  | field :: rest, item :: items, record => do
    readInOrder rest items (← field.read record item)

/-- Read a record, starting from the values its fields have when they are absent. -/
def asRecord {α : Type} (fields : List (Field α)) (start : α) : Json → Attempt α
  | .obj entries => do
    let record ← readPresent entries (sortFields fields) start
    match firstMissing? entries fields with
    | some name => fail (.missingField name)
    | none => return record
  | .arr items => readInOrder fields items start
  | _ => fail .wrongType

/-! ### Tagged records -/

/-- Split a tagged record into its tag and the fields of the tagged variant.

The tag is the field `type` of an object and the first item of an array.
-/
def splitTag : Json → Attempt (String × Json)
  | .obj entries =>
    match entries.lookup "type" with
    | some (.str tag) => .ok (tag, .obj entries)
    | some _ => fail .wrongType
    | none => fail (.missingField "type")
  | .arr (.str tag :: items) => .ok (tag, .arr items)
  | .arr (_ :: _) => fail .wrongType
  | .arr [] => fail (.missingField "type")
  | _ => fail .wrongType

/-- Read a word of a closed set, alone or as the only field of an object, with null. -/
def asWordOf {α : Type} (find? : String → Option α) (value : Json) : Attempt α :=
  let pick (word : String) : Attempt α := match find? word with
    | some found => .ok found
    | none => fail (.unknownVariant word)
  match value with
  | .str word => pick word
  | .obj [(word, content)] => do
    let found ← pick word
    match content with
    | .null => return found
    | _ => fail .wrongType
  | .obj _ => fail .outOfRange
  | _ => fail .wrongType

end Json

end LogSearch
