import LogSearch.Json.Writer
import LogSearch.Number.Word
import LogSearch.Query

/-!
# New ids

A new id is a UUID of the random kind: thirty-two hexadecimal digits in five
groups, of which one digit is fixed and one is limited to four values.  The ids
of one run come from one random start by steps of a fixed odd stride, so that two
of them only agree when their numbers agree modulo four times `16 ^ 30`.
-/

namespace LogSearch

namespace Uuid

/-- The last hexadecimal digits of a number, as many as asked for. -/
def hexDigits : Nat → Nat → List Char
  | 0, _ => []
  | count + 1, n => hexDigits count (n / 16) ++ [Json.hexDigit (n % 16)]

/-- The id of a number: its last thirty digits are free digits of the id, and what is left of it
picks the limited one. -/
def text (n : Nat) : String :=
  let digits := hexDigits 30 n
  let group (start count : Nat) : List Char := (digits.drop start).take count
  String.ofList <|
    group 0 8 ++ ['-'] ++ group 8 4 ++ ['-', '4'] ++ group 12 3
      ++ ['-', Json.hexDigit (8 + n / Nat.pow 16 30 % 4)] ++ group 15 3 ++ ['-'] ++ group 18 12

/-- The number by which one id lies behind the id before. -/
def stride : Nat := 0x278dde6e5fd29e054f2fbb81b9b3d2f

/-- The id that lies a number of steps behind a start. -/
def nth (start steps : Nat) : String :=
  text (start + steps * stride)

/-- New ids for the query at a place: one for itself, then those for its search types, of which
there are fewer than a word of 32 bits can count. -/
def freshIds (start place : Nat) : FreshIds :=
  let first := place * (maxUnsigned32 + 1)
  { query := nth start first
    searchType := fun index => nth start (first + index + 1) }

example : text 0 = "00000000-0000-4000-8000-000000000000" := by decide
example : text (4 * Nat.pow 16 30 - 1) = "ffffffff-ffff-4fff-bfff-ffffffffffff" := by decide

end Uuid

end LogSearch
