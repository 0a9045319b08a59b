import LogSearch.Number.Binary64

/-!
# The fewest digits that read back

A finite nonzero number is written with the fewest significant decimal digits
whose nearest representable number is the number itself, and among the decimals
with that many digits with the nearest one.
-/

namespace LogSearch

/-- A positive decimal number: `digits * 10 ^ exponent`. -/
structure Decimal where
  /-- The significant digits, as a whole number. -/
  digits : Nat
  /-- The power of ten. -/
  exponent : Int
  deriving DecidableEq, Inhabited

namespace Decimal

/-- The decimal as an exact quotient, numerator and denominator. -/
def ratio (d : Decimal) : Nat × Nat :=
  if 0 ≤ d.exponent then (d.digits * Nat.pow 10 d.exponent.toNat, 1)
  else (d.digits, Nat.pow 10 (-d.exponent).toNat)

/-- Move the zeros at the end of the digits into the exponent. -/
def trim : Nat → Decimal → Decimal
  | 0, d => d
  | steps + 1, d =>
    if d.digits % 10 = 0 ∧ d.digits ≠ 0 then trim steps ⟨d.digits / 10, d.exponent + 1⟩ else d

end Decimal

namespace Binary64

/-- Which of two equally near decimals is taken. -/
inductive Tie
  /-- The one with the even last digit. -/
  | even
  /-- The larger one. -/
  | up
  deriving DecidableEq

/-- The number of digits before the point of `num / den`, counted with the decimal point moved
right until the quotient is at least one; at most `steps` moves are tried. -/
def leadingPlace : Nat → Nat → Nat → Int
  | 0, _, _ => 0
  | steps + 1, num, den =>
    if num < den then leadingPlace steps (num * 10) den - 1
    else ((Nat.toDigits 10 (num / den)).length : Int)

/-- Whether the nearest representable number to a decimal has the given size. -/
def readsBack (x : Binary64) (d : Decimal) : Bool :=
  (ofRatio false d.ratio.1 d.ratio.2).magnitudeWord == x.magnitudeWord

/-- The nearer of the two neighbours of a number on the grid of multiples of `10 ^ exponent`,
if one of them reads back. -/
def neighbour? (tie : Tie) (x : Binary64) (exponent : Int) : Option Decimal :=
  let num := x.ratio.1 * Nat.pow 10 (-exponent).toNat
  let den := x.ratio.2 * Nat.pow 10 exponent.toNat
  let lower : Decimal := ⟨num / den, exponent⟩
  let upper : Decimal := ⟨num / den + 1, exponent⟩
  match x.readsBack lower, x.readsBack upper with
  | false, false => none
  | true, false => some lower
  | false, true => some upper
  | true, true =>
    let rest := 2 * (num % den)
    if rest < den then some lower
    else if den < rest then some upper
    else match tie with
      | .even => some (if lower.digits % 2 = 0 then lower else upper)
      | .up => some upper

/-- Try grids with more and more digits, the coarsest first. -/
def shortestFrom (tie : Tie) (x : Binary64) (place : Int) : Nat → Nat → Decimal
  | 0, count => ⟨x.ratio.1 * Nat.pow 10 (count - place).toNat / x.ratio.2, place - count⟩
  | steps + 1, count =>
    match x.neighbour? tie (place - count) with
    | some d => d
    | none => shortestFrom tie x place steps (count + 1)

/-- The shortest decimal of a finite nonzero number, without zeros at its end. -/
def shortest (tie : Tie) (x : Binary64) : Decimal :=
  (shortestFrom tie x (leadingPlace 400 x.ratio.1 x.ratio.2) 17 1).trim 20

example : shortest .even (ofRatio false 1 10) = ⟨1, -1⟩ := by decide +kernel
example : shortest .even ⟨1⟩ = ⟨5, -324⟩ := by decide +kernel
example : shortest .even (ofRatio false (Nat.pow 2 70) 1) = ⟨11805916207174113, 5⟩ := by
  decide +kernel
example : shortest .even (ofRatio false 1125899906842624250 1000) = ⟨11258999068426242, -1⟩ := by
  decide +kernel
example : shortest .up (ofRatio false 1125899906842624250 1000) = ⟨11258999068426243, -1⟩ := by
  decide +kernel

end Binary64

end LogSearch
