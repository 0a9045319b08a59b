import LogSearch.Error
import LogSearch.Number.Word

/-!
# Time keywords

A keyword names a window of time in words: `today`, `yesterday`, `last hour`,
`last 15 minutes`.  Case and surrounding white space do not matter.  The number
is a run of digits that may follow a plus sign, and the unit may end in any
number of letters s.
-/

namespace LogSearch

/-- The window that a keyword names. -/
inductive Keyword
  /-- From the last midnight to now. -/
  | today
  /-- The day that ends at the last midnight. -/
  | yesterday
  /-- A number of seconds ending now. -/
  | last (seconds : Nat)
  deriving DecidableEq

namespace Keyword

/-- The lower case of the characters whose lower case is a letter from a to z: the capital
letters and the Kelvin sign.  No other character matters to a keyword. -/
def lowerCase (c : Char) : Char :=
  if c = '\u212a' then 'k' else c.toLower

/-- The seconds of a unit of time. -/
def unitSeconds? (name : List Char) : Option Nat :=
  match String.ofList name with
  | "second" => some 1
  | "minute" => some 60
  | "hour" => some 3600
  | "day" => some 86400
  | "week" => some 604800
  | _ => none

/-- A unit without the letters s at its end. -/
def singular (name : List Char) : List Char :=
  (name.reverse.dropWhile (· = 's')).reverse

/-- The number that digits spell, if it is a signed 64-bit number. -/
def readDigits? (digits : List Char) : Option Nat :=
  if digits.isEmpty || !digits.all Char.isDigit then none
  else
    let n := digits.foldl (fun total c => total * 10 + (c.toNat - 48)) 0
    if n ≤ maxSigned64 then some n else none

/-- The number that a word spells, with or without a plus sign in front. -/
def amount? : List Char → Option Nat
  | '+' :: digits => readDigits? digits
  | word => readDigits? word

/-- Check that a window is not too wide. -/
def checkWindow (seconds : Nat) : Except WindowError Nat :=
  if maxWindow < seconds then .error (.tooWide (min seconds maxSigned64)) else .ok seconds

/-- The window of an amount of units, if both are understood. -/
def window? (amount : Option Nat) (unitWord : List Char) : Option (Except WindowError Nat) :=
  match amount, unitSeconds? (singular unitWord) with
  | some n, some seconds => if n = 0 then none else some (checkWindow (n * seconds))
  | _, _ => none

/-- The window that words name. -/
def ofWords? : List (List Char) → Option (Except WindowError Nat)
  | [word, unitWord] => if word = "last".toList then window? (some 1) unitWord else none
  | [word, amount, unitWord] =>
    if word = "last".toList then window? (amount? amount) unitWord else none
  | _ => none

/-- The form in which a keyword is looked at: trimmed, and in lower case. -/
def normalized (text : String) : List Char :=
  (Text.trim text.toList).map lowerCase

/-- The window that a text names. -/
def read (text : String) : Except WindowError Keyword :=
  if normalized text = "today".toList then .ok .today
  else if normalized text = "yesterday".toList then .ok .yesterday
  else match ofWords? (Text.words (normalized text)) with
    | none => .error (.unknownKeyword text)
    | some (.error error) => .error error
    | some (.ok seconds) => .ok (.last seconds)

end Keyword

end LogSearch
