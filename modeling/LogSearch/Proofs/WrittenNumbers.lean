import Mathlib.Data.List.TakeWhile
import Mathlib.Data.Nat.Cast.Order.Field
import LogSearch.Number.Layout
import LogSearch.Proofs.Rounding

/-!
# The text of a number identifies it

Whatever digits are chosen for a finite number read back as the number: a grid is
used only where one of its points does, and a grid of seventeen digits always has
such a point, since it is finer than half the distance between numbers
(`readsBack_shortest`).

The plain text of a number stands for the value of its digits in positional
notation (`positionalValue_positionalText`).  As rounding depends on values only,
the text of a finite number determines the number (`plainText_inj`).
-/

namespace LogSearch

/-! ### Decimals -/

namespace Decimal

/-- The value of a decimal. -/
def size (d : Decimal) : ℚ :=
  d.digits * 10 ^ d.exponent

theorem ratio_snd_pos (d : Decimal) : 0 < d.ratio.2 := by
  unfold ratio
  split
  · exact Nat.one_pos
  · exact Nat.pow_pos (by decide)

theorem ratio_eq_size (d : Decimal) : (d.ratio.1 : ℚ) / d.ratio.2 = d.size :=
  Binary64.div_of_power 10 d.digits d.exponent

theorem size_trim (steps : ℕ) (d : Decimal) : (d.trim steps).size = d.size := by
  induction steps generalizing d with
  | zero => rfl
  | succ steps ih =>
    unfold trim
    split
    · next hZero =>
      have hDigits : (d.digits : ℚ) = (d.digits / 10 : ℕ) * 10 := by
        exact_mod_cast (Nat.div_mul_cancel (Nat.dvd_of_mod_eq_zero hZero.1)).symm
      rw [ih, size, size, hDigits, zpow_add_one₀ (by norm_num)]
      ring
    · rfl

end Decimal

namespace Binary64

variable {x y : Binary64}

/-! ### Decimals that read back -/

theorem readsBack_iff {d : Decimal} :
    x.readsBack d = true ↔
      (ofRatio false d.ratio.1 d.ratio.2).magnitudeWord = x.magnitudeWord := by
  simp [readsBack]

theorem readsBack_congr {d other : Decimal} (h : d.size = other.size) :
    x.readsBack d = x.readsBack other := by
  have hRatio : ofRatio false d.ratio.1 d.ratio.2 = ofRatio false other.ratio.1 other.ratio.2 :=
    ofRatio_congr d.ratio_snd_pos other.ratio_snd_pos
      (by rw [d.ratio_eq_size, other.ratio_eq_size, h])
  simp only [readsBack, hRatio]

/-- Numbers that read back from the same value have the same size. -/
theorem magnitudeWord_eq_of_readsBack {d other : Decimal} (hX : x.readsBack d = true)
    (hY : y.readsBack other = true) (h : d.size = other.size) :
    x.magnitudeWord = y.magnitudeWord := by
  rw [← readsBack_congr h] at hY
  exact (readsBack_iff.mp hX).symm.trans (readsBack_iff.mp hY)

theorem readsBack_of_near {d : Decimal} (hFinite : x.isFinite)
    (h : |d.size - x.size| < x.size / 2 ^ 54) : x.readsBack d = true := by
  rw [← d.ratio_eq_size] at h
  exact readsBack_iff.mpr (magnitudeWord_of_near hFinite d.ratio_snd_pos h)

theorem readsBack_of_neighbour? {tie : Tie} {exponent : ℤ} {d : Decimal}
    (h : x.neighbour? tie exponent = some d) : x.readsBack d = true := by
  unfold neighbour? at h
  dsimp only at h
  split at h
  · contradiction
  · next hLower _ => exact Option.some.inj h ▸ hLower
  · next _ hUpper => exact Option.some.inj h ▸ hUpper
  · next hLower hUpper =>
    split at h
    · exact Option.some.inj h ▸ hLower
    · split at h
      · exact Option.some.inj h ▸ hUpper
      · split at h
        · split at h
          · exact Option.some.inj h ▸ hLower
          · exact Option.some.inj h ▸ hUpper
        · exact Option.some.inj h ▸ hUpper

/-- Where no decimal is chosen, neither neighbour reads back. -/
theorem readsBack_eq_false_of_neighbour? {tie : Tie} {exponent : ℤ}
    (h : x.neighbour? tie exponent = none) (upper : Bool) :
    x.readsBack ⟨x.ratio.1 * Nat.pow 10 (-exponent).toNat /
      (x.ratio.2 * Nat.pow 10 exponent.toNat) + upper.toNat, exponent⟩ = false := by
  unfold neighbour? at h
  dsimp only at h
  split at h
  · next hLower hUpper =>
    cases upper with
    | false => exact hLower
    | true => exact hUpper
  · contradiction
  · contradiction
  · split at h
    · contradiction
    · split at h
      · contradiction
      · cases tie <;> contradiction

/-! ### Seventeen digits -/

/-- A number counted in steps of a grid. -/
theorem grid_eq (x : Binary64) (exponent : ℤ) :
    ((x.ratio.1 * Nat.pow 10 (-exponent).toNat : ℕ) : ℚ) /
        (x.ratio.2 * Nat.pow 10 exponent.toNat : ℕ) =
      x.size / 10 ^ exponent := by
  rw [← x.ratio_eq_size, Nat.pow_eq, Nat.pow_eq]
  push_cast
  rcases le_total 0 exponent with hExponent | hExponent
  · rw [zpow_eq_pow_toNat hExponent, Int.toNat_of_nonpos (by omega), pow_zero, mul_one, div_div]
  · rw [zpow_eq_inv_pow_toNat hExponent, Int.toNat_of_nonpos hExponent, pow_zero, mul_one,
      div_inv_eq_mul, div_mul_eq_mul_div]

/-- On a grid of which a number is `10 ^ 16` steps or more away from zero, one of its two
neighbours reads back. -/
theorem isSome_neighbour? {tie : Tie} {exponent : ℤ} (hFinite : x.isFinite)
    (hFine : 10 ^ 16 ≤ x.size / 10 ^ exponent) : (x.neighbour? tie exponent).isSome = true := by
  have hGrid := x.grid_eq exponent
  have hStep : (0 : ℚ) < 10 ^ exponent := by positivity
  rw [Option.isSome_iff_ne_none]
  intro hNone
  have hFails := readsBack_eq_false_of_neighbour? hNone
  generalize x.ratio.1 * Nat.pow 10 (-exponent).toNat = num at hGrid hFails
  generalize x.ratio.2 * Nat.pow 10 exponent.toNat = den at hGrid hFails
  have hSize : x.size = num / den * 10 ^ exponent := by
    rw [hGrid, div_mul_cancel₀ _ hStep.ne']
  rw [← hGrid] at hFine
  have hDen : 0 < den := by
    by_contra hZero
    obtain rfl : den = 0 := by omega
    norm_num at hFine
  have hDenQ : (0 : ℚ) < den := by exact_mod_cast hDen
  have hFloor : ((num / den : ℕ) : ℚ) ≤ num / den := Nat.cast_div_le
  have hCeil : (num : ℚ) / den < (num / den : ℕ) + 1 := by
    rw [div_lt_iff₀ hDenQ, mul_comm]
    exact_mod_cast Nat.lt_mul_div_succ num hDen
  -- half a step is less than the `2 ^ 54`th part of the number
  have hReads (digits : ℕ) (h : |(digits : ℚ) - num / den| ≤ 1 / 2) :
      x.readsBack ⟨digits, exponent⟩ = true := by
    refine readsBack_of_near hFinite ?_
    rw [Decimal.size, hSize, ← sub_mul, abs_mul, abs_of_pos hStep, mul_div_right_comm,
      mul_lt_mul_iff_left₀ hStep]
    linarith
  rcases le_total ((num : ℚ) / den - (num / den : ℕ)) (1 / 2) with hLower | hUpper
  · have hFound := hReads (num / den + 0) (by
      rw [abs_le]
      constructor <;> push_cast <;> linarith)
    exact absurd (hFails false) (by rw [Bool.toNat_false, hFound]; decide)
  · have hFound := hReads (num / den + 1) (by
      rw [abs_le]
      constructor <;> push_cast <;> linarith)
    exact absurd (hFails true) (by rw [Bool.toNat_true, hFound]; decide)

theorem readsBack_shortestFrom {tie : Tie} {place : ℤ} {last steps count : ℕ}
    (hLast : (x.neighbour? tie (place - last)).isSome = true) (hCount : count ≤ last)
    (hSteps : last < count + steps) :
    x.readsBack (x.shortestFrom tie place steps count) = true := by
  induction steps generalizing count with
  | zero => omega
  | succ steps ih =>
    rw [shortestFrom]
    split
    · next d hFound => exact readsBack_of_neighbour? hFound
    · next hNone =>
      have hNe : count ≠ last := by
        rintro rfl
        rw [hNone] at hLast
        contradiction
      exact ih (by omega) (by omega)

theorem pow_le_of_toDigits {n : ℕ} (h : 0 < n) : 10 ^ ((Nat.toDigits 10 n).length - 1) ≤ n := by
  by_cases hOne : (Nat.toDigits 10 n).length ≤ 1
  · rw [Nat.sub_eq_zero_of_le hOne]
    exact h
  · have hIff := Nat.length_toDigits_le_iff (b := 10) (n := n)
      (k := (Nat.toDigits 10 n).length - 1) (by decide) (by omega)
    exact Nat.le_of_not_lt (hIff.not.mp (by omega))

/-- The leading digit of a quotient is not after the place that is found. -/
theorem pow_leadingPlace_le {steps num den : ℕ} (hNum : 0 < num) (hDen : 0 < den)
    (hSteps : den ≤ num * 10 ^ (steps + 1)) :
    (10 : ℚ) ^ (leadingPlace steps num den - 1) ≤ num / den := by
  have hDenQ : (0 : ℚ) < den := by exact_mod_cast hDen
  induction steps generalizing num with
  | zero =>
    rw [leadingPlace, le_div_iff₀ hDenQ]
    have hQ : (den : ℚ) ≤ num * 10 := by exact_mod_cast hSteps
    norm_num
    linarith
  | succ steps ih =>
    rw [leadingPlace]
    split
    · have hMoved : den ≤ num * 10 * 10 ^ (steps + 1) := by
        rwa [mul_assoc, ← pow_succ']
      have hNext := ih (Nat.mul_pos hNum (by decide : 0 < 10)) hMoved
      rw [zpow_sub_one₀ (by norm_num), ← div_eq_mul_inv, div_le_iff₀ (by norm_num)]
      push_cast at hNext
      rwa [mul_div_right_comm] at hNext
    · next hWhole =>
      have hPos : 0 < num / den := Nat.div_pos (by omega) hDen
      have hDigits := pow_le_of_toDigits hPos
      have hLength := Nat.length_toDigits_pos (b := 10) (n := num / den)
      have hExponent : ((Nat.toDigits 10 (num / den)).length : ℤ) - 1 =
          ((Nat.toDigits 10 (num / den)).length - 1 : ℕ) := by
        omega
      rw [hExponent, zpow_natCast]
      calc (10 : ℚ) ^ ((Nat.toDigits 10 (num / den)).length - 1) ≤ (num / den : ℕ) := by
            exact_mod_cast hDigits
        _ ≤ num / den := Nat.cast_div_le

theorem significand_pos (h : x.isZero = false) : 0 < x.significand := by
  rcases x.power_eq_or_le_significand with hLeast | hFull
  · have hWord := x.magnitudeWord_eq
    have hNonzero : x.magnitudeWord ≠ 0 := by simpa [isZero] using h
    rw [hLeast] at hWord
    simpa [hWord, Nat.pos_iff_ne_zero] using hNonzero
  · omega

theorem le_size_of_nonzero (h : x.isZero = false) : 2 ^ (-(1074 : ℕ) : ℤ) ≤ x.size := by
  have hOne : (1 : ℚ) ≤ x.significand := by exact_mod_cast significand_pos h
  have hPower : (2 : ℚ) ^ (-(1074 : ℕ) : ℤ) ≤ 2 ^ x.power :=
    zpow_le_zpow_right₀ (by norm_num) x.le_power
  calc (2 : ℚ) ^ (-(1074 : ℕ) : ℤ) = 1 * 2 ^ (-(1074 : ℕ) : ℤ) := (one_mul _).symm
    _ ≤ x.significand * 2 ^ x.power := by gcongr

theorem le_mul_pow_of_inv_pow_le {num den places : ℕ} (hDen : 0 < den)
    (h : (2 : ℚ) ^ (-places : ℤ) ≤ num / den) : den ≤ num * 2 ^ places := by
  have hDenQ : (0 : ℚ) < den := by exact_mod_cast hDen
  rw [zpow_neg, zpow_natCast, le_div_iff₀ hDenQ, inv_mul_le_iff₀ (by positivity), mul_comm] at h
  exact_mod_cast h

theorem two_pow_le_ten_pow {bits places : ℕ} (h : bits ≤ 3 * places) : 2 ^ bits ≤ 10 ^ places :=
  calc 2 ^ bits ≤ 2 ^ (3 * places) := Nat.pow_le_pow_right (by decide) h
    _ = 8 ^ places := pow_mul 2 3 places
    _ ≤ 10 ^ places := Nat.pow_le_pow_left (by decide) places

/-- The place of the leading digit is found for every number. -/
theorem pow_leadingPlace_le_size (h : x.isZero = false) :
    (10 : ℚ) ^ (leadingPlace 400 x.ratio.1 x.ratio.2 - 1) ≤ x.size := by
  have hDen := x.ratio_snd_pos
  have hSize := le_size_of_nonzero h
  rw [← x.ratio_eq_size] at hSize ⊢
  have hBits : x.ratio.2 ≤ x.ratio.1 * 2 ^ 1074 := le_mul_pow_of_inv_pow_le hDen hSize
  have hNum : 0 < x.ratio.1 := by
    by_contra hZero
    rw [Nat.eq_zero_of_not_pos hZero, Nat.zero_mul] at hBits
    omega
  refine pow_leadingPlace_le hNum hDen (hBits.trans (Nat.mul_le_mul_left _ ?_))
  exact two_pow_le_ten_pow (by decide)

/-- The digits chosen for a number read back as the number. -/
theorem readsBack_shortest (tie : Tie) (hFinite : x.isFinite) (hNonzero : x.isZero = false) :
    x.readsBack (x.shortest tie) = true := by
  have hPlace := pow_leadingPlace_le_size hNonzero
  rw [shortest, readsBack_congr (Decimal.size_trim 20 _)]
  generalize leadingPlace 400 x.ratio.1 x.ratio.2 = place at hPlace ⊢
  have hFine : (10 : ℚ) ^ 16 ≤ x.size / 10 ^ (place - (17 : ℕ)) := by
    rw [le_div_iff₀ (by positivity), ← zpow_natCast, ← zpow_add₀ (by norm_num),
      show ((16 : ℕ) : ℤ) + (place - (17 : ℕ)) = place - 1 by omega]
    exact hPlace
  exact readsBack_shortestFrom (isSome_neighbour? hFinite hFine) (by decide) (by decide)

/-! ### The value of a text -/

/-- The value of digits around a point. -/
def positionalValue (text : List Char) : ℚ :=
  let whole := text.takeWhile (· ≠ '.')
  let fraction := (text.dropWhile (· ≠ '.')).drop 1
  (Nat.ofDigitChars 10 (whole ++ fraction) 0 : ℚ) / 10 ^ fraction.length

section Values

variable {whole fraction : List Char}

theorem ne_point_of_not_mem (h : '.' ∉ whole) : ∀ c ∈ whole, decide (c ≠ '.') = true := by
  intro c hc
  rw [decide_eq_true_eq]
  rintro rfl
  contradiction

theorem positionalValue_point (h : '.' ∉ whole) :
    positionalValue (whole ++ '.' :: fraction) =
      (Nat.ofDigitChars 10 (whole ++ fraction) 0 : ℚ) / 10 ^ fraction.length := by
  have hWhole := ne_point_of_not_mem h
  rw [positionalValue, List.takeWhile_append_of_pos hWhole, List.dropWhile_append_of_pos hWhole,
    List.takeWhile_cons_of_neg (by decide), List.dropWhile_cons_of_neg (by decide),
    List.append_nil, List.drop_one, List.tail_cons]

theorem positionalValue_whole (h : '.' ∉ whole) :
    positionalValue whole = Nat.ofDigitChars 10 whole 0 := by
  have hWhole := ne_point_of_not_mem h
  rw [positionalValue, List.takeWhile_eq_self_iff.mpr hWhole, List.dropWhile_eq_nil_iff.mpr hWhole]
  simp

end Values

theorem not_mem_toDigits {c : Char} (h : c.isDigit = false) (n : ℕ) : c ∉ Nat.toDigits 10 n := by
  intro hMem
  rw [Nat.isDigit_of_mem_toDigits (by decide) (by decide) hMem] at h
  contradiction

theorem ofDigitChars_zeros_append (count : ℕ) (digits : List Char) :
    Nat.ofDigitChars 10 (zeros count ++ digits) 0 = Nat.ofDigitChars 10 digits 0 := by
  rw [Nat.ofDigitChars_append, zeros, Nat.ofDigitChars_replicate_zero, Nat.mul_zero]

/-- The digits of a whole number stand for the number with the point moved. -/
theorem positionalValue_positionalText (digits : ℕ) (place : ℤ) :
    positionalValue (positionalText false (Nat.toDigits 10 digits) place) =
      digits * 10 ^ (place - (Nat.toDigits 10 digits).length) := by
  have hDigits : Nat.ofDigitChars 10 (Nat.toDigits 10 digits) 0 = digits :=
    Nat.ofDigitChars_ten_toDigits
  have hPoint : '.' ∉ Nat.toDigits 10 digits := not_mem_toDigits (by decide) digits
  generalize Nat.toDigits 10 digits = shown at hDigits hPoint ⊢
  unfold positionalText
  split
  · next hSmall =>
    have hText : ['0', '.'] ++ zeros (-place).toNat ++ shown =
        zeros 1 ++ '.' :: (zeros (-place).toNat ++ shown) := by
      simp [zeros]
    have hLength : (zeros (-place).toNat ++ shown).length = (-(place - shown.length)).toNat := by
      rw [List.length_append, zeros, List.length_replicate]
      omega
    rw [hText, positionalValue_point (by decide), ofDigitChars_zeros_append,
      ofDigitChars_zeros_append, hDigits, hLength, zpow_eq_inv_pow_toNat (by omega), div_eq_mul_inv]
  · split
    · next hLong =>
      have hWhole : '.' ∉ shown ++ zeros (place - shown.length).toNat := by
        simp [hPoint, zeros]
      rw [if_neg (by decide), List.append_nil, positionalValue_whole hWhole,
        Nat.ofDigitChars_append, hDigits, zeros, Nat.ofDigitChars_replicate_zero,
        zpow_eq_pow_toNat (by omega)]
      push_cast
      ring
    · next hBetween =>
      have hWhole : '.' ∉ shown.take place.toNat := fun hMem => hPoint (List.mem_of_mem_take hMem)
      have hLength : (shown.drop place.toNat).length = (-(place - shown.length)).toNat := by
        rw [List.length_drop]
        omega
      rw [List.append_assoc, List.singleton_append, positionalValue_point hWhole,
        List.take_append_drop, hDigits, hLength, zpow_eq_inv_pow_toNat (by omega), div_eq_mul_inv]

/-! ### Texts of numbers -/

/-- The text of a size stands for the digits chosen. -/
theorem positionalValue_sizeText (h : x.isZero = false) :
    positionalValue (x.sizeText .plain) = (x.shortest .up).size := by
  have hText : x.sizeText .plain = positionalText false (Nat.toDigits 10 (x.shortest .up).digits)
      ((Nat.toDigits 10 (x.shortest .up).digits).length + (x.shortest .up).exponent) := by
    simp [sizeText, h, Style.plain]
  rw [hText, positionalValue_positionalText, add_sub_cancel_left, Decimal.size]

theorem sizeText_of_isZero (h : x.isZero = true) : x.sizeText .plain = ['0'] := by
  simp [sizeText, h, Style.plain, positionalText, zeros]

/-- A number that is not zero is not written as zero. -/
theorem size_shortest_ne_zero (hFinite : x.isFinite) (h : x.isZero = false) :
    (x.shortest .up).size ≠ 0 := by
  intro hSize
  have hReads := readsBack_iff.mp (readsBack_shortest .up hFinite h)
  have hDen : ((x.shortest .up).ratio.2 : ℚ) ≠ 0 := by
    exact_mod_cast (x.shortest .up).ratio_snd_pos.ne'
  rw [← Decimal.ratio_eq_size, div_eq_zero_iff, or_iff_left hDen, Nat.cast_eq_zero] at hSize
  rw [hSize, ofRatio, if_pos rfl, magnitudeWord_ofWord (by decide)] at hReads
  simp [isZero, ← hReads] at h

theorem magnitudeWord_eq_of_sizeText (hX : x.isFinite) (hY : y.isFinite)
    (h : x.sizeText .plain = y.sizeText .plain) : x.magnitudeWord = y.magnitudeWord := by
  have hZeroValue : positionalValue ['0'] = 0 := by
    rw [positionalValue_whole (by decide)]
    rfl
  cases hZeroX : x.isZero with
  | true =>
    cases hZeroY : y.isZero with
    | true =>
      simp only [isZero, beq_iff_eq] at hZeroX hZeroY
      rw [hZeroX, hZeroY]
    | false =>
      rw [sizeText_of_isZero hZeroX] at h
      exact absurd ((positionalValue_sizeText hZeroY).symm.trans (h ▸ hZeroValue))
        (size_shortest_ne_zero hY hZeroY)
  | false =>
    cases hZeroY : y.isZero with
    | true =>
      rw [sizeText_of_isZero hZeroY] at h
      exact absurd ((positionalValue_sizeText hZeroX).symm.trans (h ▸ hZeroValue))
        (size_shortest_ne_zero hX hZeroX)
    | false =>
      have hSizes : (x.shortest .up).size = (y.shortest .up).size := by
        rw [← positionalValue_sizeText hZeroX, ← positionalValue_sizeText hZeroY, h]
      exact magnitudeWord_eq_of_readsBack (readsBack_shortest .up hX hZeroX)
        (readsBack_shortest .up hY hZeroY) hSizes

theorem isDigit_or_point_of_mem_positionalText {digits : List Char} {place : ℤ} {c : Char}
    (hDigits : ∀ c ∈ digits, c.isDigit = true) (h : c ∈ positionalText false digits place) :
    c.isDigit = true ∨ c = '.' := by
  have hZeros (count : ℕ) (hZero : c ∈ zeros count) : c.isDigit = true := by
    rw [List.eq_of_mem_replicate hZero]
    decide
  unfold positionalText at h
  split at h
  · rw [List.mem_append, List.mem_append, List.mem_pair] at h
    rcases h with ((rfl | rfl) | hZero) | hDigit
    · exact .inl (by decide)
    · exact .inr rfl
    · exact .inl (hZeros _ hZero)
    · exact .inl (hDigits c hDigit)
  · split at h
    · rw [if_neg (by decide), List.append_nil, List.mem_append] at h
      exact .inl (h.elim (hDigits c) (hZeros _))
    · rw [List.mem_append, List.mem_append, List.mem_singleton] at h
      rcases h with (hDigit | rfl) | hDigit
      · exact .inl (hDigits c (List.mem_of_mem_take hDigit))
      · exact .inr rfl
      · exact .inl (hDigits c (List.mem_of_mem_drop hDigit))

/-- There are only digits and a point in the text of a size. -/
theorem isDigit_or_point_of_mem_sizeText {c : Char} (h : c ∈ x.sizeText .plain) :
    c.isDigit = true ∨ c = '.' := by
  simp only [sizeText, Style.plain] at h
  split at h
  · refine isDigit_or_point_of_mem_positionalText (fun c hDigit => ?_) h
    rw [List.mem_singleton.mp hDigit]
    decide
  · refine isDigit_or_point_of_mem_positionalText (fun c hDigit => ?_) h
    exact Nat.isDigit_of_mem_toDigits (by decide) (by decide) hDigit

theorem toList_plainText (hFinite : x.isFinite) :
    x.plainText.toList = (if x.isNegative then ['-'] else []) ++ x.sizeText .plain := by
  have hDefined : x.isUndefined = false := by
    simp only [isFinite, isUndefined, decide_eq_true_eq, decide_eq_false_iff_not] at hFinite ⊢
    omega
  simp [plainText, text, hDefined, hFinite]

/-- There are only digits, a point and a sign in the text of a finite number. -/
theorem mem_plainText (hFinite : x.isFinite) {c : Char} (h : c ∈ x.plainText.toList) :
    c.isDigit = true ∨ c = '.' ∨ c = '-' := by
  rw [toList_plainText hFinite, List.mem_append] at h
  rcases h with hSign | hSize
  · split at hSign
    · exact .inr (.inr (List.mem_singleton.mp hSign))
    · contradiction
  · exact (isDigit_or_point_of_mem_sizeText hSize).imp_right .inl

theorem minus_mem_plainText_iff (hFinite : x.isFinite) :
    '-' ∈ x.plainText.toList ↔ x.isNegative = true := by
  have hSize : '-' ∉ x.sizeText .plain := fun hMem => by
    simpa using isDigit_or_point_of_mem_sizeText hMem
  rw [toList_plainText hFinite, List.mem_append, or_iff_left hSize]
  split
  · next hNegative => simp [hNegative]
  · next hNegative => simp [hNegative]

/-- The text of a finite number determines the number. -/
theorem plainText_inj (hX : x.isFinite) (hY : y.isFinite) :
    x.plainText = y.plainText ↔ x = y := by
  refine ⟨fun h => ?_, congrArg plainText⟩
  have hSign : x.isNegative = y.isNegative := by
    rw [Bool.eq_iff_iff, ← minus_mem_plainText_iff hX, ← minus_mem_plainText_iff hY, h]
  have hTexts := congrArg String.toList h
  rw [toList_plainText hX, toList_plainText hY, hSign] at hTexts
  exact ext_of_parts hSign (magnitudeWord_eq_of_sizeText hX hY (List.append_cancel_left hTexts))

end Binary64

end LogSearch
