import LogSearch.Json
import LogSearch.Number.Word

/-!
# JSON text in

The reader accepts the standard grammar and nothing else: one value with white
space around it, at most 127 arrays and objects inside each other.  Of several
fields of one name the last one counts.  The reader never needs more steps than
twice the length of the text, which is how its recursion is bounded.
-/

namespace LogSearch

namespace Json

/-- The characters that count as white space between the parts of a text. -/
def isSpace (c : Char) : Bool :=
  c = ' ' ∨ c = '\n' ∨ c = '\t' ∨ c = '\r'

/-- What follows the white space at the front. -/
def skipSpace (cs : List Char) : List Char :=
  cs.dropWhile isSpace

/-- What follows a fixed word, if the text starts with it. -/
def skipWord? (word : List Char) (cs : List Char) : Option (List Char) :=
  if word.isPrefixOf cs then some (cs.drop word.length) else none

/-! ### Numbers -/

/-- The value of a decimal digit. -/
def digitValue (c : Char) : Nat := c.toNat - 48

/-- Take digits into a 64-bit significand for as long as it fits.  The result tells how many
digits were taken; the ones after them are not looked at. -/
def takeDigits (significand : Nat) : List Char → Nat × Nat
  | [] => (significand, 0)
  | c :: rest =>
    let next := significand * 10 + digitValue c
    if next ≤ maxUnsigned64 then
      let (total, taken) := takeDigits next rest
      (total, taken + 1)
    else (significand, 0)

/-- The whole number that digits spell. -/
def digitsValue (cs : List Char) : Nat :=
  cs.foldl (fun total c => total * 10 + digitValue c) 0

/-- The parts of a number in a text. -/
structure NumberText where
  /-- Whether there is a minus sign. -/
  negative : Bool
  /-- The digits before the point. -/
  whole : List Char
  /-- The digits after the point, if there is one. -/
  fraction : Option (List Char)
  /-- The exponent, if there is one. -/
  exponent : Option Int

/-- The value of a number text; there is none if the number is too large.

Digits beyond those that fit a 64-bit significand only count as places.
-/
def NumberText.value? (text : NumberText) : Option Json :=
  let (significand, taken) := takeDigits 0 text.whole
  let dropped := text.whole.length - taken
  match text.fraction, text.exponent with
  | none, none =>
    if 0 < dropped then
      (Binary64.ofScientific? significand dropped).map fun x =>
        .float (if text.negative then x.negate else x)
    else if !text.negative then some (.int significand)
    else if 0 < significand ∧ significand ≤ maxSigned64 + 1 then some (.int (-significand))
    else some (.float (Binary64.ofRatio true significand 1))
  | fraction, exponent =>
    let (digits, places) := takeDigits significand (fraction.getD [])
    (Binary64.ofScientific? digits ((dropped : Int) - places + exponent.getD 0)).map fun x =>
      .float (if text.negative then x.negate else x)

/-- Split off the digits at the front. -/
def spanDigits (cs : List Char) : List Char × List Char :=
  (cs.takeWhile Char.isDigit, cs.dropWhile Char.isDigit)

/-- Read the part of a number from the point on. -/
def readFraction? : List Char → Option (Option (List Char) × List Char)
  | '.' :: rest =>
    let (digits, rest) := spanDigits rest
    if digits.isEmpty then none else some (some digits, rest)
  | cs => some (none, cs)

/-- Read the digits of an exponent of the given sign. -/
def readExponentDigits? (negative : Bool) (cs : List Char) : Option (Option Int × List Char) :=
  let (digits, rest) := spanDigits cs
  if digits.isEmpty then none
  else
    let size : Int := digitsValue digits
    some (some (if negative then -size else size), rest)

/-- Read the part of a number from the exponent mark on. -/
def readExponent? : List Char → Option (Option Int × List Char)
  | c :: rest =>
    if c = 'e' ∨ c = 'E' then
      match rest with
      | '+' :: rest => readExponentDigits? false rest
      | '-' :: rest => readExponentDigits? true rest
      | rest => readExponentDigits? false rest
    else some (none, c :: rest)
  | [] => some (none, [])

/-- Read a number.  A zero at the front has no digit after it. -/
def readNumber? (cs : List Char) : Option (Json × List Char) := do
  let (negative, cs) := match cs with
    | '-' :: rest => (true, rest)
    | cs => (false, cs)
  let (whole, cs) := spanDigits cs
  if whole.isEmpty || (whole.head? = some '0' && 1 < whole.length) then none
  let (fraction, cs) ← readFraction? cs
  let (exponent, cs) ← readExponent? cs
  let value ← NumberText.value? ⟨negative, whole, fraction, exponent⟩
  return (value, cs)

/-! ### Strings -/

/-- The value of a hexadecimal digit of either case. -/
def hexValue? (c : Char) : Option Nat :=
  if c.isDigit then some (c.toNat - 48)
  else if 'a' ≤ c ∧ c ≤ 'f' then some (c.toNat - 87)
  else if 'A' ≤ c ∧ c ≤ 'F' then some (c.toNat - 55)
  else none

/-- Read four hexadecimal digits. -/
def readHex? : List Char → Option (Nat × List Char)
  | a :: b :: c :: d :: rest => do
    let value := (((← hexValue? a) * 16 + (← hexValue? b)) * 16 + (← hexValue? c)) * 16
      + (← hexValue? d)
    return (value, rest)
  | _ => none

/-- Read what follows the letter `u` of an escape: one code unit, or two that make a pair. -/
def readUnicode? (cs : List Char) : Option (Char × List Char) := do
  let (first, cs) ← readHex? cs
  if 0xD800 ≤ first ∧ first < 0xDC00 then
    match cs with
    | '\\' :: 'u' :: rest =>
      let (second, rest) ← readHex? rest
      if 0xDC00 ≤ second ∧ second < 0xE000 then
        return (Char.ofNat (0x10000 + (first - 0xD800) * 0x400 + (second - 0xDC00)), rest)
      else none
    | _ => none
  else if 0xDC00 ≤ first ∧ first < 0xE000 then none
  else return (Char.ofNat first, cs)

/-- Read what follows the backslash of an escape. -/
def readEscape? : List Char → Option (Char × List Char)
  | '"' :: rest => some ('"', rest)
  | '\\' :: rest => some ('\\', rest)
  | '/' :: rest => some ('/', rest)
  | 'b' :: rest => some ('\x08', rest)
  | 'f' :: rest => some ('\x0c', rest)
  | 'n' :: rest => some ('\n', rest)
  | 'r' :: rest => some ('\r', rest)
  | 't' :: rest => some ('\t', rest)
  | 'u' :: rest => readUnicode? rest
  | _ => none

/-- Read a string from behind its opening quotation mark, its characters so far in reverse. -/
def readString? : Nat → List Char → List Char → Option (String × List Char)
  | 0, _, _ => none
  | _ + 1, _, [] => none
  | steps + 1, seen, c :: rest =>
    if c = '"' then some (String.ofList seen.reverse, rest)
    else if c = '\\' then do
      let (escaped, rest) ← readEscape? rest
      readString? steps (escaped :: seen) rest
    else if c.toNat < 32 then none
    else readString? steps (c :: seen) rest

/-! ### Values -/

mutual

/-- Read a value inside at most `depth - 1` further arrays and objects. -/
def readValue? : Nat → Nat → List Char → Option (Json × List Char)
  | 0, _, _ => none
  | steps + 1, depth, cs =>
    match skipSpace cs with
    | 'n' :: rest => (skipWord? ['u', 'l', 'l'] rest).map (.null, ·)
    | 't' :: rest => (skipWord? ['r', 'u', 'e'] rest).map (.bool true, ·)
    | 'f' :: rest => (skipWord? ['a', 'l', 's', 'e'] rest).map (.bool false, ·)
    | '"' :: rest =>
      (readString? (rest.length + 1) [] rest).map fun (text, rest) => (.str text, rest)
    | '[' :: rest =>
      if depth ≤ 1 then none
      else match skipSpace rest with
        | ']' :: rest => some (.arr [], rest)
        | rest => (readItems? steps (depth - 1) rest).map fun (items, rest) => (.arr items, rest)
    | '\x7b' :: rest =>
      if depth ≤ 1 then none
      else match skipSpace rest with
        | '\x7d' :: rest => some (.obj [], rest)
        | rest => (readFields? steps (depth - 1) [] rest).map fun (fields, rest) =>
            (.obj fields, rest)
    | cs => readNumber? cs

/-- Read the items of an array that has some, and its closing bracket. -/
def readItems? : Nat → Nat → List Char → Option (List Json × List Char)
  | 0, _, _ => none
  | steps + 1, depth, cs => do
    let (first, cs) ← readValue? steps depth cs
    match skipSpace cs with
    | ']' :: rest => return ([first], rest)
    | ',' :: rest =>
      let (others, rest) ← readItems? steps depth rest
      return (first :: others, rest)
    | _ => none

/-- Read the fields of an object that has some, and its closing brace, into those read so far. -/
def readFields? : Nat → Nat → List (String × Json) → List Char →
    Option (List (String × Json) × List Char)
  | 0, _, _, _ => none
  | steps + 1, depth, seen, cs => do
    match skipSpace cs with
    | '"' :: rest =>
      let (name, rest) ← readString? (rest.length + 1) [] rest
      match skipSpace rest with
      | ':' :: rest =>
        let (value, rest) ← readValue? steps depth rest
        let seen := insertEntry name value seen
        match skipSpace rest with
        | '\x7d' :: rest => return (seen, rest)
        | ',' :: rest => readFields? steps depth seen rest
        | _ => none
      | _ => none
    | _ => none

end

/-- The value that a text spells, if it spells one. -/
def read? (text : String) : Option Json :=
  let cs := text.toList
  match readValue? (2 * cs.length + 2) 128 cs with
  | some (value, rest) => if (skipSpace rest).isEmpty then some value else none
  | none => none

end Json

end LogSearch
