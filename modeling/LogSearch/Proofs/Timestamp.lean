import Mathlib.Data.List.TakeWhile
import LogSearch.Proofs.Calendar
import LogSearch.Time.Timestamp

/-!
# Timestamps denote what they were written for

Reading a timestamp gives back the instant it was written for, up to what its
fraction keeps: all of it in declarations and results, the whole milliseconds in
request bodies.

A timestamp is read part by part, so there is one lemma for each part, stated
for any text behind it, and `read?_textWith` puts them together.  The two ways
to write a fraction enter only through what reading makes of them.
-/

namespace LogSearch

namespace Instant

/-! ### Numbers -/

/-- What follows a number does not look like more of it. -/
def EndsNumber (rest : List Char) : Prop :=
  ∀ c ∈ rest.head?, c.isDigit = false

theorem takeWhile_isDigit_of_endsNumber {rest : List Char} (h : EndsNumber rest) :
    rest.takeWhile Char.isDigit = [] := by
  cases rest with
  | nil => rfl
  | cons c rest => simp [h c rfl]

theorem endsNumber_take {rest : List Char} (h : EndsNumber rest) (count : Nat) :
    EndsNumber (rest.take count) := by
  intro c hc
  cases rest with
  | nil => simp at hc
  | cons d rest =>
    cases count with
    | zero => simp at hc
    | succ count => exact h c (by simpa using hc)

theorem isDigit_of_mem_padded {width n : Nat} {c : Char} (h : c ∈ padded width n) :
    c.isDigit = true := by
  rcases List.mem_append.mp h with hZero | hDigit
  · rw [List.eq_of_mem_replicate hZero]
    decide
  · exact Nat.isDigit_of_mem_toDigits (by decide) (by decide) hDigit

theorem padded_ne_nil (width n : Nat) : padded width n ≠ [] := by
  intro hNil
  exact Nat.toDigits_ne_nil (List.append_eq_nil_iff.mp hNil).2

theorem length_padded {width n : Nat} (hWidth : 0 < width) (hFits : n < 10 ^ width) :
    (padded width n).length = width := by
  have hLength := (Nat.length_toDigits_le_iff (by decide : 1 < 10) hWidth).mpr hFits
  simp only [padded, List.length_append, List.length_replicate]
  omega

theorem foldl_padded (width n : Nat) :
    (padded width n).foldl (fun total c => total * 10 + (c.toNat - 48)) 0 = n := by
  have hValue : Nat.ofDigitChars 10 (padded width n) 0 = n := by
    rw [padded, Nat.ofDigitChars_append, Nat.ofDigitChars_replicate_zero, Nat.mul_zero,
      Nat.ofDigitChars_ten_toDigits]
  simpa only [Nat.ofDigitChars_eq_foldl, Nat.mul_comm, Char.reduceToNat] using hValue

/-- A padded number is read up to its end, which the next character or the bound on its digits
marks. -/
theorem readNumber?_padded {most width n : Nat} {rest : List Char}
    (hEnd : (padded width n).length = most ∨
      ((padded width n).length ≤ most ∧ EndsNumber rest)) :
    readNumber? most (padded width n ++ rest) = some (n, rest) := by
  have hDigits : ((padded width n ++ rest).take most).takeWhile Char.isDigit
      = padded width n := by
    have hAll : ∀ c ∈ padded width n, c.isDigit = true := fun c => isDigit_of_mem_padded
    rcases hEnd with hExact | ⟨hWithin, hRest⟩
    · rw [List.take_left' hExact]
      exact List.takeWhile_eq_self_iff.mpr hAll
    · rw [List.take_append, List.take_of_length_le hWithin, List.takeWhile_append_of_pos hAll,
        takeWhile_isDigit_of_endsNumber (endsNumber_take hRest _), List.append_nil]
  have hSome : (padded width n).isEmpty = false := by
    simpa using padded_ne_nil width n
  simp only [readNumber?, hDigits, hSome, foldl_padded, List.drop_left]
  rfl

/-- What starts with a number starts with a digit. -/
theorem isDigit_of_padded_append_eq_cons {width n : Nat} {rest cs : List Char} {c : Char}
    (h : padded width n ++ rest = c :: cs) : c.isDigit = true := by
  cases hDigits : padded width n with
  | nil => exact absurd hDigits (padded_ne_nil width n)
  | cons first digits =>
    rw [hDigits, List.cons_append] at h
    rw [← (List.cons.inj h).1]
    exact isDigit_of_mem_padded (hDigits ▸ List.mem_cons_self)

theorem isBlank_of_isDigit {c : Char} (h : c.isDigit = true) : Text.isBlank c = false := by
  obtain ⟨hLow, hHigh⟩ := Char.isDigit_iff_toNat.mp h
  simp only [Char.reduceToNat] at hLow hHigh
  simp only [Text.isBlank, Bool.or_eq_false_iff, Bool.and_eq_false_iff, decide_eq_false_iff_not,
    beq_eq_false_iff_ne]
  omega

theorem trimStart_cons {c : Char} (h : Text.isBlank c = false) (cs : List Char) :
    Text.trimStart (c :: cs) = c :: cs := by
  simp [Text.trimStart, h]

theorem trimStart_padded (width n : Nat) (rest : List Char) :
    Text.trimStart (padded width n ++ rest) = padded width n ++ rest := by
  cases hText : padded width n ++ rest with
  | nil => rfl
  | cons c cs =>
    exact trimStart_cons (isBlank_of_isDigit (isDigit_of_padded_append_eq_cons hText)) cs

/-! ### Dates and times of day -/

theorem readPart?_padded {n : Nat} (hFits : n < 100) (rest : List Char) :
    readPart? 2 (padded 2 n ++ rest) = some (n, rest) := by
  rw [readPart?, trimStart_padded]
  exact readNumber?_padded (Or.inl (length_padded (by decide) hFits))

theorem readMark?_cons {mark : Char} (h : Text.isBlank mark = false) (rest : List Char) :
    readMark? mark (mark :: rest) = some rest := by
  simp [readMark?, trimStart_cons h]

theorem readYear?_yearText (year : Int) (rest : List Char) :
    readYear? (yearText year ++ '-' :: rest) = some (year, '-' :: rest) := by
  have hDash : EndsNumber ('-' :: rest) := by simp [EndsNumber]
  -- behind a sign as many digits are read as there are
  have hSigned (n : Nat) :
      readNumber? (padded 4 n ++ '-' :: rest).length (padded 4 n ++ '-' :: rest)
        = some (n, '-' :: rest) :=
    readNumber?_padded (Or.inr ⟨by simp, hDash⟩)
  rw [yearText]
  split
  · next hFour =>
    have hRead : readNumber? 4 (padded 4 year.toNat ++ '-' :: rest)
        = some (year.toNat, '-' :: rest) :=
      readNumber?_padded (Or.inl (length_padded (by decide) (by omega)))
    rw [readYear?, trimStart_padded]
    split
    · next hMinus => exact absurd (isDigit_of_padded_append_eq_cons hMinus) (by decide)
    · next hPlus => exact absurd (isDigit_of_padded_append_eq_cons hPlus) (by decide)
    · rw [hRead, Option.map_some]
      simp only [Int.toNat_of_nonneg hFour.1]
  · next hMore =>
    split
    · next hNegative =>
      have hAbs : -(year.natAbs : Int) = year := by omega
      rw [List.cons_append, readYear?, trimStart_cons (by decide)]
      simp only [hSigned, Option.map_some, hAbs]
    · next hPositive =>
      have hAbs : (year.natAbs : Int) = year := by omega
      rw [List.cons_append, readYear?, trimStart_cons (by decide)]
      simp only [hSigned, Option.map_some, hAbs]

theorem readDate?_dateText {date : CivilDate} (hValid : date.isValid = true)
    (rest : List Char) : readDate? (dateText date ++ rest) = some (date, rest) := by
  have hDash : Text.isBlank '-' = false := by decide
  obtain ⟨hMonth, hDay⟩ := CivilDate.bounds_of_isValid hValid
  simp only [readDate?, dateText, List.append_assoc, List.cons_append, readYear?_yearText,
    readMark?_cons hDash, readPart?_padded (show date.month < 100 by omega),
    readPart?_padded (show date.day < 100 by omega), Option.bind_eq_bind, Option.bind_some]
  rfl

theorem readClock?_clockText {hour minute second : Nat} (hHour : hour < 100)
    (hMinute : minute < 100) (hSecond : second < 100) (rest : List Char) :
    readClock? (clockText hour minute second ++ rest) = some (hour, minute, second, rest) := by
  have hColon : Text.isBlank ':' = false := by decide
  simp only [readClock?, clockText, List.append_assoc, List.cons_append, readPart?_padded hHour,
    readMark?_cons hColon, readPart?_padded hMinute, readPart?_padded hSecond,
    Option.bind_eq_bind, Option.bind_some]
  rfl

/-! ### Fractions -/

/-- The digits of a fraction count in the unit of the last of them. -/
theorem readFraction?_padded {width n : Nat} (hWidth : 0 < width ∧ width ≤ 9)
    (hFits : n < 10 ^ width) :
    readFraction? ('.' :: padded width n ++ ['Z']) = some (n * 10 ^ (9 - width), ['Z']) := by
  have hLength : (padded width n).length = width := length_padded hWidth.1 hFits
  have hRead : readNumber? 9 (padded width n ++ ['Z']) = some (n, ['Z']) :=
    readNumber?_padded (Or.inr ⟨by omega, by simp [EndsNumber]⟩)
  have hPlaces : (padded width n ++ ['Z']).length - ['Z'].length = width := by
    simp [hLength]
  simp only [List.cons_append, readFraction?, hRead, Option.bind_eq_bind, Option.bind_some,
    hPlaces]
  rfl

theorem readFraction?_exactFraction {nano : Nat} (h : nano < 1000000000) :
    readFraction? (exactFraction nano ++ ['Z']) = some (nano, ['Z']) := by
  rw [exactFraction]
  split
  · next hNone =>
    rw [hNone]
    rfl
  · split
    · rw [readFraction?_padded (by decide) (by omega)]
      congr 2
      omega
    · split
      · rw [readFraction?_padded (by decide) (by omega)]
        congr 2
        omega
      · rw [readFraction?_padded (by decide) (by omega)]
        congr 2
        omega

theorem readFraction?_millisecondFraction {nano : Nat} (h : nano < 1000000000) :
    readFraction? (millisecondFraction nano ++ ['Z']) = some (nano / 1000000 * 1000000, ['Z']) :=
  readFraction?_padded (by decide) (by omega)

/-! ### Instants -/

theorem timeOfDay_lt (t : Instant) : t.timeOfDay < 86400 := by
  simp only [timeOfDay, daySeconds]
  omega

theorem shownSecond_le (t : Instant) : t.shownSecond ≤ 60 := by
  simp only [shownSecond]
  split <;> omega

theorem shownNano_lt (t : Instant) : t.shownNano < 1000000000 := by
  have hProper := t.proper
  simp only [shownNano]
  split <;> omega

theorem shownSecond_eq_sixty_iff (t : Instant) : t.shownSecond = 60 ↔ 1000000000 ≤ t.nano := by
  have hProper := t.proper
  simp only [shownSecond, timeOfDay, daySeconds]
  split <;> omega

theorem isReachableDate_date (t : Instant) : isReachableDate t.date = true := by
  have hReachable := t.reachable
  simp only [firstSecond, lastSecond, daySeconds] at hReachable
  have hLow : CivilDate.toDays ⟨-262143, 1, 1⟩ ≤ t.second / daySeconds := by
    simp only [daySeconds]
    omega
  have hHigh : t.second / daySeconds ≤ CivilDate.toDays ⟨262142, 12, 31⟩ := by
    simp only [daySeconds]
    omega
  have hYear := CivilDate.year_ofDays_bounds hLow hHigh
  simp [isReachableDate, date, CivilDate.isValid_ofDays, hYear]

/-- The parts that are shown for an instant make it again. -/
theorem ofParts?_shown (t : Instant) (nano : Nat) :
    ofParts? t.date (t.timeOfDay / 3600) (t.timeOfDay / 60 % 60) t.shownSecond nano 0 =
      at? t.second (if 1000000000 ≤ t.nano then nano + 1000000000 else nano) := by
  have hDay := timeOfDay_lt t
  have hPlain : (if t.shownSecond = 60 then 59 else t.shownSecond) = t.timeOfDay % 60 := by
    split
    · next hLeap =>
      have hMinute := hLeap
      simp only [shownSecond, (shownSecond_eq_sixty_iff t).mp hLeap, if_true] at hMinute
      omega
    · next hPlain =>
      rw [shownSecond_eq_sixty_iff] at hPlain
      simp only [shownSecond, hPlain, if_false]
  have hLocal : t.second / daySeconds * daySeconds
      + ((t.timeOfDay / 3600 * 60 + t.timeOfDay / 60 % 60) * 60 + t.timeOfDay % 60 : Nat) - 0
        = t.second := by
    have hTime : (t.timeOfDay : Int) = t.second % daySeconds := by
      simp only [timeOfDay, daySeconds]
      omega
    simp only [daySeconds] at hTime ⊢
    omega
  rw [ofParts?, if_pos ⟨isReachableDate_date t, by omega, by omega, shownSecond_le t, by decide⟩]
  simp only [hPlain, date, CivilDate.toDays_ofDays, hLocal]
  simp only [shownSecond_eq_sixty_iff]

/-- A timestamp reads back as the instant it was written for, up to what its fraction keeps. -/
theorem read?_textWith {fraction : Nat → List Char} {kept : Nat → Nat}
    (hFraction : ∀ nano < 1000000000,
      readFraction? (fraction nano ++ ['Z']) = some (kept nano, ['Z'])) (t : Instant) :
    read? (textWith fraction ['Z'] t) =
      at? t.second
        (if 1000000000 ≤ t.nano then kept t.shownNano + 1000000000 else kept t.shownNano) := by
  have hTime := timeOfDay_lt t
  have hSecond := shownSecond_le t
  have hDate (rest : List Char) : readDate? (dateText t.date ++ rest) = some (t.date, rest) :=
    readDate?_dateText (CivilDate.isValid_ofDays (t.second / daySeconds)) rest
  have hClock (rest : List Char) := readClock?_clockText (show t.timeOfDay / 3600 < 100 by omega)
    (show t.timeOfDay / 60 % 60 < 100 by omega) (show t.shownSecond < 100 by omega) rest
  have hOffset : readOffset? (Text.trimStart ['Z']) = some (0, []) := by decide
  have hDone : (Text.trimStart []).isEmpty = true := by decide
  simp only [read?, textWith, String.toList_ofList, hDate, Option.bind_eq_bind, Option.bind_some,
    readParting?, hClock, hFraction _ (shownNano_lt t), hOffset, hDone, true_or, if_true,
    ofParts?_shown]

theorem at?_self (t : Instant) : at? t.second t.nano = some t := by
  rw [at?, dif_pos ⟨t.reachable, t.proper⟩]

/-- The timestamp of a declaration or a result denotes the instant itself. -/
theorem read?_timestamp (t : Instant) : read? t.timestamp = some t := by
  have hNano : (if 1000000000 ≤ t.nano then t.shownNano + 1000000000 else t.shownNano)
      = t.nano := by
    simp only [shownNano]
    split <;> omega
  rw [timestamp, read?_textWith fun nano => readFraction?_exactFraction, hNano]
  exact at?_self t

/-- The start of the millisecond that an instant falls in. -/
def truncated (t : Instant) : Instant where
  second := t.second
  nano := t.nano / 1000000 * 1000000
  reachable := t.reachable
  proper := by
    have hProper := t.proper
    omega

/-- The timestamp of a request body denotes the start of the millisecond. -/
theorem read?_requestText (t : Instant) : read? t.requestText = some t.truncated := by
  have hNano : (if 1000000000 ≤ t.nano
      then t.shownNano / 1000000 * 1000000 + 1000000000
      else t.shownNano / 1000000 * 1000000) = t.nano / 1000000 * 1000000 := by
    unfold shownNano
    split <;> omega
  rw [requestText, read?_textWith fun nano => readFraction?_millisecondFraction, hNano]
  exact at?_self t.truncated

end Instant

end LogSearch
