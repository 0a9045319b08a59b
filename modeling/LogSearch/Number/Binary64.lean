/-!
# Binary floating-point numbers

A number with a fraction is held as its 64-bit word: a sign bit, eleven
exponent bits and fifty-two fraction bits.  All arithmetic goes through exact
ratios of natural numbers and one rounding, to the nearest representable number
with ties going to the even word, so every operation can be evaluated and
reasoned about without machine floating point.
-/

namespace LogSearch

/-- A binary floating-point number, given by its 64-bit word. -/
structure Binary64 where
  /-- The word. -/
  bits : UInt64
  deriving DecidableEq, Inhabited

namespace Binary64

/-! ### The parts of a word -/

/-- The value of the sign bit. -/
def signUnit : Nat := 0x8000000000000000

/-- The value of the lowest exponent bit, which is also the number of fractions. -/
def exponentUnit : Nat := 0x10000000000000

example : signUnit = Nat.pow 2 63 := by decide
example : exponentUnit = Nat.pow 2 52 := by decide

/-- Whether the sign bit is set. -/
def isNegative (x : Binary64) : Bool :=
  signUnit ≤ x.bits.toNat

/-- The word without its sign bit. -/
def magnitudeWord (x : Binary64) : Nat :=
  x.bits.toNat % signUnit

/-- The exponent bits, as a number below 2048. -/
def exponentField (x : Binary64) : Nat :=
  x.magnitudeWord / exponentUnit

/-- The fraction bits. -/
def fractionField (x : Binary64) : Nat :=
  x.magnitudeWord % exponentUnit

/-- The word of positive infinity: all exponent bits, no fraction bit. -/
def infinityWord : Nat := 2047 * exponentUnit

/-- Whether the number is neither infinite nor undefined. -/
def isFinite (x : Binary64) : Bool :=
  x.magnitudeWord < infinityWord

/-- Whether the word stands for no number at all. -/
def isUndefined (x : Binary64) : Bool :=
  infinityWord < x.magnitudeWord

/-- Whether the number is zero, of either sign. -/
def isZero (x : Binary64) : Bool :=
  x.magnitudeWord == 0

/-- The whole number that the power of two of a finite number multiplies. -/
def significand (x : Binary64) : Nat :=
  if x.exponentField = 0 then x.fractionField else exponentUnit + x.fractionField

/-- The exponent of the power of two of a finite number. -/
def power (x : Binary64) : Int :=
  max x.exponentField 1 - 1075

/-- The size of a finite number as an exact quotient, numerator and denominator. -/
def ratio (x : Binary64) : Nat × Nat :=
  if 0 ≤ x.power then (x.significand * Nat.pow 2 x.power.toNat, 1)
  else (x.significand, Nat.pow 2 (-x.power).toNat)

/-! ### Making numbers -/

/-- The number with a given sign and word below the sign bit. -/
def ofWord (negative : Bool) (word : Nat) : Binary64 :=
  ⟨((if negative then signUnit else 0) + word).toUInt64⟩

/-- Positive zero. -/
def zero : Binary64 := ofWord false 0

/-- Infinity of the given sign. -/
def infinity (negative : Bool) : Binary64 := ofWord negative infinityWord

/-- The word that stands for no number. -/
def undefined : Binary64 := ofWord false (infinityWord + exponentUnit / 2)

/-- The same number with the sign turned. -/
def negate (x : Binary64) : Binary64 :=
  ofWord (!x.isNegative) x.magnitudeWord

/-- A quotient rounded to a whole number, a half going to the even neighbour. -/
def roundQuotient (num den : Nat) : Nat :=
  let whole := num / den
  let rest := 2 * (num % den)
  if rest < den then whole
  else if den < rest then whole + 1
  else whole + whole % 2

/-- The quotient of `num` and `den` divided by a power of two, as a quotient. -/
def shiftRatio (num den : Nat) (power : Int) : Nat × Nat :=
  if 0 ≤ power then (num, den * Nat.pow 2 power.toNat) else (num * Nat.pow 2 (-power).toNat, den)

/-- The power of two that leaves the quotient `num / den` a 53-bit whole part, or the least
power there is when the quotient is too small for that. -/
def ratioPower (num den : Nat) : Int :=
  let guess : Int := (num.log2 : Int) - (den.log2 : Int) - 52
  let scaled := shiftRatio num den guess
  max (if scaled.1 / scaled.2 < exponentUnit then guess - 1 else guess) (-1074)

/-- The representable number nearest to `num / den`.

The exponent bits and the fraction bits are added up as one word.  A significand
that rounds up to the next power of two thereby carries into the exponent, and
one below `exponentUnit` leaves the exponent bits at zero.
-/
def ofRatio (negative : Bool) (num den : Nat) : Binary64 :=
  if num = 0 then ofWord negative 0
  else
    let power := ratioPower num den
    let scaled := shiftRatio num den power
    let word := (power + 1074).toNat * exponentUnit + roundQuotient scaled.1 scaled.2
    ofWord negative (min word infinityWord)

/-- The representable number nearest to a whole number. -/
def ofInt (n : Int) : Binary64 :=
  ofRatio (decide (n < 0)) n.natAbs 1

/-! ### Scaling by powers of ten -/

/-- The product of a number with `10 ^ places`, the power rounded first. -/
def timesPowerOfTen (x : Binary64) (places : Nat) : Binary64 :=
  let tenPower := (ofRatio false (Nat.pow 10 places) 1).ratio
  ofRatio x.isNegative (x.ratio.1 * tenPower.1) (x.ratio.2 * tenPower.2)

/-- The quotient of a number by `10 ^ places`, the power rounded first. -/
def overPowerOfTen (x : Binary64) (places : Nat) : Binary64 :=
  let tenPower := (ofRatio false (Nat.pow 10 places) 1).ratio
  ofRatio x.isNegative (x.ratio.1 * tenPower.2) (x.ratio.2 * tenPower.1)

/-- The quotient of a number by a power of ten of any size, at most 308 places at a time. -/
def scaleDown (x : Binary64) (places : Nat) : Binary64 :=
  if places ≤ 308 then x.overPowerOfTen places
  else if x.isZero then x
  else scaleDown (x.overPowerOfTen 308) (places - 308)
termination_by places

/-- The number written with the given digits and power of ten.

The digits are rounded first and scaled once after that.  There is no result
when the number is too large.
-/
def ofScientific? (digits : Nat) (exponent : Int) : Option Binary64 :=
  let whole := ofRatio false digits 1
  if exponent < 0 then some (whole.scaleDown (-exponent).toNat)
  else if whole.isZero then some whole
  else if 308 < exponent then none
  else
    let scaled := whole.timesPowerOfTen exponent.toNat
    if scaled.isFinite then some scaled else none

example : ofRatio false 1 1 = ⟨0x3ff0000000000000⟩ := by decide +kernel
example : ofRatio true 1 10 = ⟨0xbfb999999999999a⟩ := by decide +kernel
example : ofScientific? 5 (-324) = some ⟨1⟩ := by decide +kernel
example : ofScientific? 1 309 = none := by decide +kernel

end Binary64

end LogSearch
