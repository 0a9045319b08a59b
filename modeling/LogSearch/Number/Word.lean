/-!
# Ranges of words

The largest numbers that fit words of 32 and of 64 bits.  Powers are written as
`Nat.pow` and bounds as numerals throughout, so that they mean the same with any
algebra in scope.
-/

namespace LogSearch

/-- The largest unsigned number of 32 bits. -/
def maxUnsigned32 : Nat := 0xffffffff

/-- The largest unsigned number of 64 bits. -/
def maxUnsigned64 : Nat := 0xffffffffffffffff

/-- The largest signed number of 64 bits. -/
def maxSigned64 : Nat := 0x7fffffffffffffff

/-- The least signed number of 64 bits. -/
def minSigned64 : Int := -0x8000000000000000

example : maxUnsigned32 + 1 = Nat.pow 2 32 := by decide
example : maxUnsigned64 + 1 = Nat.pow 2 64 := by decide
example : maxSigned64 + 1 = Nat.pow 2 63 := by decide
example : minSigned64 = -(maxSigned64 + 1) := by decide

end LogSearch
