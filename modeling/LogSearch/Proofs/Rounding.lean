import Mathlib.Algebra.Order.Field.Power
import Mathlib.Data.Nat.Log
import Mathlib.Data.Rat.Cast.Order
import Mathlib.Tactic.FieldSimp
import Mathlib.Tactic.Linarith
import Mathlib.Tactic.NormNum
import Mathlib.Tactic.Positivity
import Mathlib.Tactic.Ring
import LogSearch.Number.Binary64

/-!
# Rounding to the nearest number

A finite number is a whole number of at most 53 bits times a power of two, and its
word counts the numbers up to it (`magnitudeWord_eq`).  Rounding a quotient looks
for the power that leaves 53 bits before the point, or for the least power there
is (`IsPowerOf`, `isPowerOf_ratioPower`), and rounds the whole part to the nearest.

Two facts follow.  Rounding depends on the value of a quotient and not on its
numerator and denominator (`ofRatio_congr`), and a quotient that is off a number
by less than its `2 ^ 54`th part rounds to that number (`magnitudeWord_of_near`).
-/

namespace LogSearch

namespace Binary64

/-! ### Words and sizes -/

section Words

variable {x y : Binary64}

theorem bits_lt (x : Binary64) : x.bits.toNat < 2 * signUnit :=
  x.bits.toNat_lt

/-- A number is given by its sign and its size. -/
theorem ext_of_parts (hSign : x.isNegative = y.isNegative)
    (hMagnitude : x.magnitudeWord = y.magnitudeWord) : x = y := by
  have hX := x.bits_lt
  have hY := y.bits_lt
  have hSame : x.bits.toNat = y.bits.toNat := by
    simp only [isNegative, decide_eq_decide] at hSign
    simp only [magnitudeWord] at hMagnitude
    unfold signUnit at *
    omega
  cases x
  cases y
  exact congrArg mk (UInt64.toNat_inj.mp hSame)

@[simp]
theorem magnitudeWord_ofWord {negative : Bool} {word : Nat} (h : word < signUnit) :
    (ofWord negative word).magnitudeWord = word := by
  have hWord : ((if negative then signUnit else 0) + word) < 2 ^ 64 := by
    unfold signUnit at *
    split <;> omega
  simp only [magnitudeWord, ofWord, Nat.toUInt64_eq, UInt64.toNat_ofNat', Nat.mod_eq_of_lt hWord]
  split
  · rw [Nat.add_mod_left, Nat.mod_eq_of_lt h]
  · rw [Nat.zero_add, Nat.mod_eq_of_lt h]

end Words

/-! ### Sizes -/

/-- The value of a finite number without its sign. -/
def size (x : Binary64) : ℚ :=
  x.significand * 2 ^ x.power

theorem significand_lt (x : Binary64) : x.significand < 2 ^ 53 := by
  have hFraction : x.fractionField < exponentUnit := Nat.mod_lt _ (by decide)
  unfold significand exponentUnit at *
  split <;> omega

theorem le_power (x : Binary64) : -1074 ≤ x.power := by
  unfold power
  omega

/-- Only the numbers of the least power have fewer than 53 bits. -/
theorem power_eq_or_le_significand (x : Binary64) : x.power = -1074 ∨ 2 ^ 52 ≤ x.significand := by
  unfold power significand exponentUnit
  split
  · left
    omega
  · right
    omega

/-- Words count the numbers of all powers in turn.  The leading bit of a significand with 53 bits
takes part in the count of powers. -/
theorem magnitudeWord_eq (x : Binary64) :
    x.magnitudeWord = (x.power + 1074).toNat * exponentUnit + x.significand := by
  have hParts : x.magnitudeWord = exponentUnit * x.exponentField + x.fractionField :=
    (Nat.div_add_mod _ _).symm
  rw [hParts]
  unfold power significand exponentUnit
  split <;> omega

theorem zpow_eq_pow_toNat {base : ℚ} {power : ℤ} (h : 0 ≤ power) :
    base ^ power = base ^ power.toNat := by
  rw [← zpow_natCast, Int.toNat_of_nonneg h]

theorem zpow_eq_inv_pow_toNat {base : ℚ} {power : ℤ} (h : power ≤ 0) :
    base ^ power = (base ^ (-power).toNat)⁻¹ := by
  rw [← zpow_natCast, Int.toNat_of_nonneg (by omega), zpow_neg, inv_inv]

/-- The quotient that stands for a whole number times a power of a base. -/
theorem div_of_power (base digits : ℕ) (power : ℤ) :
    let ratio := if 0 ≤ power then (digits * Nat.pow base power.toNat, 1)
      else (digits, Nat.pow base (-power).toNat)
    (ratio.1 : ℚ) / ratio.2 = digits * (base : ℚ) ^ power := by
  dsimp only
  split
  · next hPower =>
    rw [zpow_eq_pow_toNat hPower, Nat.pow_eq]
    push_cast
    rw [div_one]
  · next hPower =>
    rw [zpow_eq_inv_pow_toNat (by omega), Nat.pow_eq]
    push_cast
    rw [div_eq_mul_inv]

theorem ratio_snd_pos (x : Binary64) : 0 < x.ratio.2 := by
  unfold ratio
  split
  · exact Nat.one_pos
  · exact Nat.two_pow_pos _

theorem ratio_eq_size (x : Binary64) : (x.ratio.1 : ℚ) / x.ratio.2 = x.size :=
  div_of_power 2 x.significand x.power

/-! ### Rounding a quotient to a whole number -/

theorem roundQuotient_mul (num den : ℕ) {scale : ℕ} (hScale : 0 < scale) :
    roundQuotient (num * scale) (den * scale) = roundQuotient num den := by
  simp only [roundQuotient, Nat.mul_div_mul_right _ _ hScale, Nat.mul_mod_mul_right,
    ← Nat.mul_assoc, Nat.mul_lt_mul_right hScale]

theorem roundQuotient_congr {num den num' den' : ℕ} (hDen : 0 < den) (hDen' : 0 < den')
    (h : (num : ℚ) / den = num' / den') : roundQuotient num den = roundQuotient num' den' := by
  have hCross : num * den' = num' * den := by
    rw [div_eq_div_iff (by positivity) (by positivity)] at h
    exact_mod_cast h
  rw [← roundQuotient_mul num den hDen', hCross, Nat.mul_comm den den', roundQuotient_mul _ _ hDen]

theorem roundQuotient_of_near {num den whole : ℕ} (hDen : 0 < den)
    (h : |(num : ℚ) / den - whole| < 1 / 2) : roundQuotient num den = whole := by
  obtain ⟨hAbove, hBelow⟩ := abs_lt.mp h
  have hDenQ : (0 : ℚ) < den := by exact_mod_cast hDen
  have hLow : 2 * (den * whole) < 2 * num + den := by
    have hQ : (whole : ℚ) - 1 / 2 < num / den := by linarith
    rw [lt_div_iff₀ hDenQ] at hQ
    have : (2 * (den * whole) : ℚ) < 2 * num + den := by linarith
    exact_mod_cast this
  have hHigh : 2 * num < 2 * (den * whole) + den := by
    have hQ : (num : ℚ) / den < whole + 1 / 2 := by linarith
    rw [div_lt_iff₀ hDenQ] at hQ
    have : (2 * num : ℚ) < 2 * (den * whole) + den := by linarith
    exact_mod_cast this
  have hParts := Nat.div_add_mod num den
  have hRest := Nat.mod_lt num hDen
  simp only [roundQuotient]
  rcases Nat.lt_trichotomy whole (num / den) with hBefore | rfl | hAfter
  · have hStep := Nat.mul_le_mul_left den hBefore
    rw [Nat.mul_succ] at hStep
    omega
  · rw [if_pos (by omega)]
  · obtain hNext | hFar := Nat.eq_or_lt_of_le hAfter
    · rw [← hNext, Nat.mul_succ] at hLow
      rw [if_neg (by omega), if_pos (by omega), ← hNext]
    · have hStep := Nat.mul_le_mul_left den hFar
      rw [Nat.mul_succ, Nat.mul_succ] at hStep
      omega

/-! ### The power of a quotient -/

theorem shiftRatio_snd_pos (num : ℕ) {den : ℕ} (hDen : 0 < den) (power : ℤ) :
    0 < (shiftRatio num den power).2 := by
  unfold shiftRatio
  split
  · exact Nat.mul_pos hDen (Nat.two_pow_pos _)
  · exact hDen

theorem shiftRatio_eq (num den : ℕ) (power : ℤ) :
    ((shiftRatio num den power).1 : ℚ) / (shiftRatio num den power).2 =
      (num : ℚ) / den / 2 ^ power := by
  unfold shiftRatio
  split
  · next hPower =>
    rw [zpow_eq_pow_toNat hPower, Nat.pow_eq, div_div]
    push_cast
    rfl
  · next hPower =>
    rw [zpow_eq_inv_pow_toNat (by omega), Nat.pow_eq, div_inv_eq_mul, div_mul_eq_mul_div]
    push_cast
    rfl

/-- A power of two leaves a quotient 53 bits before the point, or it is the least power and leaves
it no more. -/
structure IsPowerOf (quotient : ℚ) (power : ℤ) : Prop where
  least : -1074 ≤ power
  lt : quotient < 2 ^ (power + 53)
  full : power = -1074 ∨ 2 ^ (power + 52) ≤ quotient

theorem IsPowerOf.le {quotient : ℚ} {power other : ℤ} (h : IsPowerOf quotient power)
    (hOther : IsPowerOf quotient other) : other ≤ power := by
  rcases hOther.full with hLeast | hFull
  · exact hLeast ▸ h.least
  · have hPowers : (2 : ℚ) ^ (other + 52) < 2 ^ (power + 53) := lt_of_le_of_lt hFull h.lt
    rw [zpow_lt_zpow_iff_right₀ (by norm_num)] at hPowers
    omega

theorem IsPowerOf.unique {quotient : ℚ} {power other : ℤ} (h : IsPowerOf quotient power)
    (hOther : IsPowerOf quotient other) : power = other :=
  le_antisymm (hOther.le h) (h.le hOther)

/-- The least power takes the place of powers below it. -/
theorem isPowerOf_max {quotient : ℚ} {power : ℤ} (hLt : quotient < 2 ^ (power + 53))
    (hFull : 2 ^ (power + 52) ≤ quotient) : IsPowerOf quotient (max power (-1074)) := by
  rcases le_total (-1074) power with hPower | hPower
  · rw [max_eq_left hPower]
    exact ⟨hPower, hLt, .inr hFull⟩
  · rw [max_eq_right hPower]
    refine ⟨le_refl _, lt_of_lt_of_le hLt ?_, .inl rfl⟩
    exact zpow_le_zpow_right₀ (by norm_num) (by omega)

theorem quotient_bounds {num den : ℕ} (hNum : 0 < num) (hDen : 0 < den) :
    (2 : ℚ) ^ ((num.log2 : ℤ) - den.log2 - 1) < num / den ∧
      (num : ℚ) / den < 2 ^ ((num.log2 : ℤ) - den.log2 + 1) := by
  have hNumLow : (2 : ℚ) ^ (num.log2 : ℤ) ≤ num := by
    exact_mod_cast Nat.log2_self_le hNum.ne'
  have hNumHigh : (num : ℚ) < 2 ^ ((num.log2 : ℤ) + 1) := by
    exact_mod_cast Nat.lt_log2_self
  have hDenLow : (2 : ℚ) ^ (den.log2 : ℤ) ≤ den := by
    exact_mod_cast Nat.log2_self_le hDen.ne'
  have hDenHigh : (den : ℚ) < 2 ^ ((den.log2 : ℤ) + 1) := by
    exact_mod_cast Nat.lt_log2_self
  have hDenQ : (0 : ℚ) < den := by exact_mod_cast hDen
  constructor
  · rw [lt_div_iff₀ hDenQ]
    calc (2 : ℚ) ^ ((num.log2 : ℤ) - den.log2 - 1) * den
        < 2 ^ ((num.log2 : ℤ) - den.log2 - 1) * 2 ^ ((den.log2 : ℤ) + 1) := by gcongr
      _ = 2 ^ (num.log2 : ℤ) := by
        rw [← zpow_add₀ two_ne_zero]
        congr 1
        ring
      _ ≤ num := hNumLow
  · rw [div_lt_iff₀ hDenQ]
    calc (num : ℚ) < 2 ^ ((num.log2 : ℤ) + 1) := hNumHigh
      _ = 2 ^ ((num.log2 : ℤ) - den.log2 + 1) * 2 ^ (den.log2 : ℤ) := by
        rw [← zpow_add₀ two_ne_zero]
        congr 1
        ring
      _ ≤ 2 ^ ((num.log2 : ℤ) - den.log2 + 1) * den := by gcongr

/-- Whether a quotient has less than 53 bits before the point at some power. -/
theorem whole_lt_exponentUnit_iff (num : ℕ) {den : ℕ} (hDen : 0 < den) (power : ℤ) :
    (shiftRatio num den power).1 / (shiftRatio num den power).2 < exponentUnit ↔
      (num : ℚ) / den < 2 ^ (power + 52) := by
  have hPos := shiftRatio_snd_pos num hDen power
  have hShifted := shiftRatio_eq num den power
  have hPosQ : (0 : ℚ) < (shiftRatio num den power).2 := by exact_mod_cast hPos
  have hUnit : (exponentUnit : ℚ) = 2 ^ (52 : ℤ) := by norm_num [exponentUnit]
  rw [Nat.div_lt_iff_lt_mul hPos, zpow_add₀ two_ne_zero, ← div_lt_iff₀' (by positivity),
    ← hShifted, div_lt_iff₀ hPosQ, ← hUnit]
  norm_cast

theorem isPowerOf_ratioPower {num den : ℕ} (hNum : 0 < num) (hDen : 0 < den) :
    IsPowerOf ((num : ℚ) / den) (ratioPower num den) := by
  obtain ⟨hLow, hHigh⟩ := quotient_bounds hNum hDen
  let guess : ℤ := (num.log2 : ℤ) - den.log2 - 52
  have hLowGuess : (2 : ℚ) ^ (guess - 1 + 52) ≤ num / den := by
    rw [show guess - 1 + 52 = (num.log2 : ℤ) - den.log2 - 1 by omega]
    exact hLow.le
  have hHighGuess : (num : ℚ) / den < 2 ^ (guess + 53) := by
    rw [show guess + 53 = (num.log2 : ℤ) - den.log2 + 1 by omega]
    exact hHigh
  have hWhole := whole_lt_exponentUnit_iff num hDen guess
  simp only [ratioPower]
  split
  · next hShort =>
    refine isPowerOf_max ?_ hLowGuess
    rw [show guess - 1 + 53 = guess + 52 by omega]
    exact hWhole.mp hShort
  · next hFull =>
    exact isPowerOf_max hHighGuess (not_lt.mp (hWhole.not.mp hFull))

/-! ### Rounding a quotient to a number -/

/-- The word that a quotient is rounded to. -/
theorem magnitudeWord_ofRatio {negative : Bool} {num den : ℕ} (hNum : 0 < num) :
    (ofRatio negative num den).magnitudeWord =
      min ((ratioPower num den + 1074).toNat * exponentUnit +
        roundQuotient (shiftRatio num den (ratioPower num den)).1
          (shiftRatio num den (ratioPower num den)).2) infinityWord := by
  rw [ofRatio, if_neg hNum.ne']
  refine magnitudeWord_ofWord (lt_of_le_of_lt (min_le_right _ _) (by decide))

/-- Rounding depends on the value of a quotient only. -/
theorem ofRatio_congr {negative : Bool} {num den num' den' : ℕ} (hDen : 0 < den) (hDen' : 0 < den')
    (h : (num : ℚ) / den = num' / den') :
    ofRatio negative num den = ofRatio negative num' den' := by
  have hDenQ : (0 : ℚ) < den := by exact_mod_cast hDen
  have hDenQ' : (0 : ℚ) < den' := by exact_mod_cast hDen'
  by_cases hNum : num = 0
  · have hNum' : num' = 0 := by
      simpa [hNum, hDen.ne', hDen'.ne'] using h.symm
    simp [ofRatio, hNum, hNum']
  · have hNum' : num' ≠ 0 := by
      rintro rfl
      simp [hNum, hDen.ne'] at h
    have hPower : ratioPower num den = ratioPower num' den' :=
      (isPowerOf_ratioPower (Nat.pos_of_ne_zero hNum) hDen).unique
        (h ▸ isPowerOf_ratioPower (Nat.pos_of_ne_zero hNum') hDen')
    have hRound : roundQuotient (shiftRatio num den (ratioPower num' den')).1
          (shiftRatio num den (ratioPower num' den')).2 =
        roundQuotient (shiftRatio num' den' (ratioPower num' den')).1
          (shiftRatio num' den' (ratioPower num' den')).2 :=
      roundQuotient_congr (shiftRatio_snd_pos num hDen _) (shiftRatio_snd_pos num' hDen' _)
        (by rw [shiftRatio_eq, shiftRatio_eq, h])
    simp only [ofRatio, if_neg hNum, if_neg hNum', hPower, hRound]

/-- A quotient that has 53 bits before the point in units of a power, or less in units of the least
one, rounds to the nearest whole number of these units. -/
theorem magnitudeWord_of_units {negative : Bool} {num den whole : ℕ} {power : ℤ} {units : ℚ}
    (hDen : 0 < den) (hUnits : (num : ℚ) / den = units * 2 ^ power) (hPositive : 0 < units)
    (hLeast : -1074 ≤ power) (hLt : units < 2 ^ 53) (hFull : power = -1074 ∨ 2 ^ 52 ≤ units)
    (hNear : |units - whole| < 1 / 2) :
    (ofRatio negative num den).magnitudeWord =
      min ((power + 1074).toNat * exponentUnit + whole) infinityWord := by
  have hUnit : (0 : ℚ) < 2 ^ power := by positivity
  have hNum : 0 < num := by
    have hQuotient : (0 : ℚ) < num / den := hUnits ▸ mul_pos hPositive hUnit
    by_contra hZero
    obtain rfl : num = 0 := by omega
    simp at hQuotient
  have hPower : IsPowerOf ((num : ℚ) / den) power := by
    refine ⟨hLeast, ?_, hFull.imp_right fun hFull => ?_⟩
    · rw [hUnits, add_comm, zpow_add₀ two_ne_zero, mul_lt_mul_iff_left₀ hUnit]
      exact_mod_cast hLt
    · rw [hUnits, add_comm, zpow_add₀ two_ne_zero, mul_le_mul_iff_left₀ hUnit]
      exact_mod_cast hFull
  obtain rfl := (isPowerOf_ratioPower hNum hDen).unique hPower
  rw [magnitudeWord_ofRatio hNum, roundQuotient_of_near (shiftRatio_snd_pos num hDen _)]
  rw [shiftRatio_eq, hUnits, mul_div_cancel_right₀ _ hUnit.ne']
  exact hNear

/-- A quotient that is off a number by less than its `2 ^ 54`th part rounds to it. -/
theorem magnitudeWord_of_near {x : Binary64} {negative : Bool} {num den : ℕ} (hFinite : x.isFinite)
    (hDen : 0 < den) (h : |(num : ℚ) / den - x.size| < x.size / 2 ^ 54) :
    (ofRatio negative num den).magnitudeWord = x.magnitudeWord := by
  have hWord : x.magnitudeWord < infinityWord := by simpa [isFinite] using hFinite
  have hUnit : (0 : ℚ) < 2 ^ x.power := by positivity
  have hSmall : (x.significand : ℚ) + 1 ≤ 2 ^ 53 := by exact_mod_cast x.significand_lt
  obtain ⟨units, hUnits⟩ : ∃ units : ℚ, (num : ℚ) / den = units * 2 ^ x.power :=
    ⟨(num : ℚ) / den / 2 ^ x.power, (div_mul_cancel₀ _ hUnit.ne').symm⟩
  have hOff : |units - x.significand| < x.significand / 2 ^ 54 := by
    rwa [hUnits, size, ← sub_mul, abs_mul, abs_of_pos hUnit, mul_div_right_comm,
      mul_lt_mul_iff_left₀ hUnit] at h
  obtain ⟨hAbove, hBelow⟩ := abs_lt.mp hOff
  have hPositive : 0 < units := by linarith
  rw [x.magnitudeWord_eq] at hWord ⊢
  by_cases hFull : x.power = -1074 ∨ 2 ^ 52 ≤ units
  · have hNear : |units - x.significand| < 1 / 2 := lt_of_lt_of_le hOff (by linarith)
    rw [magnitudeWord_of_units hDen hUnits hPositive x.le_power (by linarith) hFull hNear]
    exact min_eq_left hWord.le
  · -- just below the least number of a power, the units are those of the power before
    push Not at hFull
    obtain ⟨hPower, hUnder⟩ := hFull
    have hWhole : x.significand = 2 ^ 52 := by
      have hLeast : 2 ^ 52 ≤ x.significand := x.power_eq_or_le_significand.resolve_left hPower
      have hMost : (x.significand : ℚ) < 2 ^ 52 + 1 := by linarith
      have : x.significand < 2 ^ 52 + 1 := by exact_mod_cast hMost
      omega
    have hHalves : (num : ℚ) / den = 2 * units * 2 ^ (x.power - 1) := by
      rw [hUnits, zpow_sub_one₀ two_ne_zero]
      ring
    have hNear : |2 * units - (2 ^ 53 : ℕ)| < 1 / 2 := by
      rw [hWhole] at hAbove hBelow
      push_cast at hAbove hBelow ⊢
      exact abs_lt.mpr ⟨by linarith, by linarith⟩
    have hLeast : -1074 ≤ x.power - 1 := by
      have := x.le_power
      omega
    have hWordBefore : (x.power - 1 + 1074).toNat * exponentUnit + 2 ^ 53 =
        (x.power + 1074).toNat * exponentUnit + x.significand := by
      unfold exponentUnit
      omega
    rw [magnitudeWord_of_units hDen hHalves (by linarith) hLeast (by linarith) (.inr ?_) hNear,
      hWordBefore]
    · exact min_eq_left hWord.le
    · have := (abs_lt.mp hNear).1
      push_cast at this
      linarith

end Binary64

end LogSearch
