import LogSearch.Number.Shortest

/-!
# Written numbers

The shortest digits of a number are laid out in one of two styles.  JSON text
uses positional notation for leading digits from the sixteenth place before the
point to the fifth after it and scientific notation elsewhere, and always shows
that the number is no integer.  Plain text uses positional notation throughout
and writes whole numbers without a point.
-/

namespace LogSearch

namespace Binary64

/-- How a number is laid out. -/
structure Style where
  /-- Which of two equally near decimals is written. -/
  tie : Tie
  /-- The range of leading-digit exponents that are written positionally; none bounds it. -/
  positional : Option (Int × Int)
  /-- Whether a whole number in positional notation gets a fraction digit. -/
  wholeFraction : Bool

/-- The style of JSON text. -/
def Style.json : Style := ⟨.even, some (-5, 15), true⟩

/-- The style of names and messages. -/
def Style.plain : Style := ⟨.up, none, false⟩

/-- A text of zeros. -/
def zeros (count : Nat) : List Char :=
  List.replicate count '0'

/-- Digits with the point after the first `place` of them, filled up with zeros. -/
def positionalText (wholeFraction : Bool) (digits : List Char) (place : Int) : List Char :=
  if place ≤ 0 then ['0', '.'] ++ zeros (-place).toNat ++ digits
  else if (digits.length : Int) ≤ place then
    digits ++ zeros (place - digits.length).toNat ++ (if wholeFraction then ['.', '0'] else [])
  else digits.take place.toNat ++ ['.'] ++ digits.drop place.toNat

/-- Digits with the point after the first of them and the power of ten behind. -/
def scientificText (digits : List Char) (exponent : Int) : List Char :=
  let fraction := digits.drop 1
  let mantissa := digits.take 1 ++ (if fraction.isEmpty then [] else '.' :: fraction)
  let sign := if exponent < 0 then '-' else '+'
  mantissa ++ ['e', sign] ++ Nat.toDigits 10 exponent.natAbs

/-- The text of the size of a finite number. -/
def sizeText (style : Style) (x : Binary64) : List Char :=
  if x.isZero then positionalText style.wholeFraction ['0'] 1
  else
    let d := shortest style.tie x
    let digits := Nat.toDigits 10 d.digits
    let place : Int := digits.length + d.exponent
    match style.positional with
    | none => positionalText style.wholeFraction digits place
    | some (least, most) =>
      if least ≤ place - 1 ∧ place - 1 ≤ most then positionalText style.wholeFraction digits place
      else scientificText digits (place - 1)

/-- The text of a number. -/
def text (style : Style) (x : Binary64) : String :=
  let sign : List Char := if x.isNegative then ['-'] else []
  if x.isUndefined then "NaN"
  else if x.isFinite then String.ofList (sign ++ sizeText style x)
  else String.ofList (sign ++ ['i', 'n', 'f'])

/-- The text of a finite number in JSON. -/
def jsonText (x : Binary64) : String := x.text .json

/-- The text of a number in names and messages. -/
def plainText (x : Binary64) : String := x.text .plain

end Binary64

end LogSearch
