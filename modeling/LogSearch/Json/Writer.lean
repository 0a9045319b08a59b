import LogSearch.Json
import LogSearch.Number.Layout

/-!
# JSON text out

A value is written without any space, its fields in the order in which it lists
them.  Inside a string only the quotation mark, the backslash and the control
characters below the space are escaped; everything else stands for itself.
-/

namespace LogSearch

namespace Json

/-- A hexadecimal digit in lower case. -/
def hexDigit (n : Nat) : Char :=
  if n < 10 then Char.ofNat (48 + n) else Char.ofNat (87 + n)

/-- A character as it stands inside a written string. -/
def escapeChar (c : Char) : List Char :=
  if c = '"' then ['\\', '"']
  else if c = '\\' then ['\\', '\\']
  else if c = '\x08' then ['\\', 'b']
  else if c = '\x0c' then ['\\', 'f']
  else if c = '\n' then ['\\', 'n']
  else if c = '\r' then ['\\', 'r']
  else if c = '\t' then ['\\', 't']
  else if c.toNat < 32 then
    ['\\', 'u', '0', '0', hexDigit (c.toNat / 16), hexDigit (c.toNat % 16)]
  else [c]

/-- A text as a string literal. -/
def quote (text : String) : String :=
  String.ofList ('"' :: text.toList.flatMap escapeChar ++ ['"'])

mutual

/-- The text of a value, without any space. -/
def compact : Json → String
  | .null => "null"
  | .bool value => if value then "true" else "false"
  | .int value => toString value
  | .float value => value.jsonText
  | .str text => quote text
  | .arr items => "[" ++ ",".intercalate (compactItems items) ++ "]"
  | .obj fields => "\x7b" ++ ",".intercalate (compactFields fields) ++ "\x7d"

/-- The texts of the items of an array. -/
def compactItems : List Json → List String
  | [] => []
  | first :: rest => compact first :: compactItems rest

/-- The texts of the fields of an object. -/
def compactFields : List (String × Json) → List String
  | [] => []
  | (name, value) :: rest => (quote name ++ ":" ++ compact value) :: compactFields rest

end

/-- The text of an array or object over several lines, closed at the outer indentation. -/
def block (indent : Nat) (opening closing : String) (lines : List String) : String :=
  if lines.isEmpty then opening ++ closing
  else
    let inner := "\n" ++ String.ofList (List.replicate (indent + 2) ' ')
    let outer := "\n" ++ String.ofList (List.replicate indent ' ')
    opening ++ inner ++ ("," ++ inner).intercalate lines ++ outer ++ closing

mutual

/-- The text of a value with one item or field a line, indented by two spaces a level. -/
def pretty (indent : Nat) : Json → String
  | .arr items => block indent "[" "]" (prettyItems (indent + 2) items)
  | .obj fields => block indent "\x7b" "\x7d" (prettyFields (indent + 2) fields)
  | other => compact other

/-- The indented texts of the items of an array. -/
def prettyItems (indent : Nat) : List Json → List String
  | [] => []
  | first :: rest => pretty indent first :: prettyItems indent rest

/-- The indented texts of the fields of an object. -/
def prettyFields (indent : Nat) : List (String × Json) → List String
  | [] => []
  | (name, value) :: rest =>
    (quote name ++ ": " ++ pretty indent value) :: prettyFields indent rest

end

/-- How a value stands in a text: a text as it is, any other value in its compact form. -/
inductive StandsAs : Json → String → Prop
  | text (content : String) : StandsAs (.str content) content
  | other {value : Json} (h : ∀ content, value ≠ .str content) : StandsAs value value.compact

end Json

end LogSearch
