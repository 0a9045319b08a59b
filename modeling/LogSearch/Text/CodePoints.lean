/-!
# Ranges of code points

A property of characters is kept as the closed ranges of the code points that
have it, in ascending order.  The tables of this library are those of version
15.1 of the Unicode standard.
-/

namespace LogSearch

namespace Text

/-- Whether a character lies in one of the given ranges. -/
def inRanges (ranges : List (Nat × Nat)) (c : Char) : Bool :=
  ranges.any fun range => range.1 ≤ c.toNat && c.toNat ≤ range.2

/-- Whether ranges are nonempty and follow each other with gaps between them. -/
def areApart : List (Nat × Nat) → Bool
  | [] => true
  | [range] => range.1 ≤ range.2
  | first :: second :: rest =>
    first.1 ≤ first.2 && first.2 + 1 < second.1 && areApart (second :: rest)

/-- The number of code points in ranges that do not meet. -/
def countPoints (ranges : List (Nat × Nat)) : Nat :=
  ranges.foldl (fun total range => total + (range.2 + 1 - range.1)) 0

end Text

end LogSearch
