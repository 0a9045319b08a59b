import LogSearch.Keyed
import LogSearch.Number.Binary64

/-!
# JSON values

Declarations, request bodies and responses travel as JSON.  A whole number that
fits a signed or unsigned 64-bit word is kept exactly, every other number is
binary floating point.  The fields of an object that has been read are in
ascending order of their names without repetition; an object that is about to be
written lists its fields in the order in which they are to appear.
-/

namespace LogSearch

/-- A JSON value. -/
inductive Json where
  | null
  | bool (value : Bool)
  | int (value : Int)
  | float (value : Binary64)
  | str (text : String)
  | arr (items : List Json)
  | obj (fields : List (String × Json))
  deriving Inhabited

namespace Json

/-- A whole number that is not negative. -/
def nat (n : Nat) : Json := .int n

/-- A 32-bit number. -/
def word (n : UInt32) : Json := .int n.toNat

/-- A list of texts. -/
def texts (values : List String) : Json := .arr (values.map .str)

/-- A set of names, in ascending order. -/
def names (values : NameSet) : Json := texts values.toList

/-- The value of an option, or null. -/
def optional {α : Type} (render : α → Json) : Option α → Json
  | none => .null
  | some value => render value

/-- A table as an object, in ascending order of its names. -/
def keyed {α : Type} (render : α → Json) (table : Keyed α) : Json :=
  .obj (table.entries.map fun entry => (entry.1, render entry.2))

/-- A field that is left out when there is no value. -/
def optionalField {α : Type} (name : String) (render : α → Json) :
    Option α → List (String × Json)
  | none => []
  | some value => [(name, render value)]

/-- A field that is left out when its condition fails. -/
def fieldWhen (condition : Bool) (name : String) (value : Json) : List (String × Json) :=
  if condition then [(name, value)] else []

/-! ### Looking into a value -/

/-- The field of an object, if the value is an object that has it. -/
def get? (name : String) : Json → Option Json
  | .obj fields => fields.lookup name
  | _ => none

/-- The field of an object, null where there is none. -/
def field (name : String) (value : Json) : Json :=
  (value.get? name).getD .null

/-- The item of an array, null where there is none. -/
def item (index : Nat) : Json → Json
  | .arr items => items.getD index .null
  | _ => .null

/-- The value of the first field of an object, null where there is none. -/
def firstField : Json → Json
  | .obj ((_, value) :: _) => value
  | _ => .null

/-- The items of an array. -/
def items? : Json → Option (List Json)
  | .arr items => some items
  | _ => none

/-- The fields of an object. -/
def fields? : Json → Option (List (String × Json))
  | .obj fields => some fields
  | _ => none

/-- An unsigned 64-bit number. -/
def unsigned? : Json → Option Nat
  | .int n => if 0 ≤ n then some n.toNat else none
  | _ => none

end Json

end LogSearch
