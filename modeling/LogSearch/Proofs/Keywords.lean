import Mathlib.Data.List.TakeWhile
import LogSearch.Proofs.Outcome
import LogSearch.Time.Range

/-!
# The grammar of time keywords

A text names a window if it is one of two fixed words, or if its words are those of
a number of units.  `Keyword.Names` says so without the reader, for any two kinds of
words that stand for numbers and for units, and `Text.HasWords` says what the words
of a text are.

The reader understands more than is documented: a plus sign before the number, and
any number of letters s behind the unit.  Both grammars are therefore stated, as two
cases of `Keyword.Names`.  What is read is what is understood (`read_eq_ok_iff`), and
what is documented is that much of it that is written in plain words
(`documented_iff`).
-/

namespace LogSearch

/-! ### Words -/

namespace Text

/-- The words of a text: runs of characters other than blanks that end at a blank or at the end. -/
inductive HasWords : (text : List Char) → (words : List (List Char)) → Prop
  | nil : HasWords [] []
  | blank {c : Char} {rest : List Char} {words : List (List Char)} (hBlank : isBlank c = true)
      (hRest : HasWords rest words) : HasWords (c :: rest) words
  | word {word rest : List Char} {words : List (List Char)} (hSome : word ≠ [])
      (hWord : ∀ c ∈ word, isBlank c = false) (hEnd : ∀ c ∈ rest.head?, isBlank c = true)
      (hRest : HasWords rest words) : HasWords (word ++ rest) (word :: words)

theorem words_cons_of_blank {c : Char} (h : isBlank c = true) (rest : List Char) :
    words (c :: rest) = words rest := by
  simp [words, wordsFrom, h]

theorem wordsFrom_append {word : List Char} (h : ∀ c ∈ word, isBlank c = false)
    (current rest : List Char) :
    wordsFrom current (word ++ rest) = wordsFrom (word.reverse ++ current) rest := by
  induction word generalizing current with
  | nil => rfl
  | cons c word ih =>
    have hPlain : isBlank c = false := h c List.mem_cons_self
    rw [List.cons_append, wordsFrom, hPlain, if_neg Bool.false_ne_true,
      ih fun d hd => h d (List.mem_cons_of_mem _ hd), List.reverse_cons, List.append_assoc]
    rfl

/-- A word in progress ends with the text or before a blank. -/
theorem wordsFrom_of_end {current rest : List Char} (hSome : current ≠ [])
    (hEnd : ∀ c ∈ rest.head?, isBlank c = true) :
    wordsFrom current rest = current.reverse :: words rest := by
  have hCurrent : current.isEmpty = false := by simpa using hSome
  cases rest with
  | nil => simp [words, wordsFrom, hSome]
  | cons c rest =>
    have hBlank : isBlank c = true := hEnd c rfl
    rw [words_cons_of_blank hBlank, wordsFrom, hBlank, if_pos rfl, hCurrent]
    rfl

theorem hasWords_wordsFrom {current : List Char} (h : ∀ c ∈ current, isBlank c = false)
    (text : List Char) : HasWords (current.reverse ++ text) (wordsFrom current text) := by
  have hReverse {word : List Char} (h : ∀ c ∈ word, isBlank c = false) :
      ∀ c ∈ word.reverse, isBlank c = false :=
    fun c hc => h c (List.mem_reverse.mp hc)
  induction text generalizing current with
  | nil =>
    cases current with
    | nil => exact .nil
    | cons c current => exact .word (by simp) (hReverse h) (by simp) .nil
  | cons c rest ih =>
    cases hBlank : isBlank c with
    | true =>
      have hRest : HasWords (c :: rest) (words (c :: rest)) := by
        rw [words_cons_of_blank hBlank]
        exact .blank hBlank (ih (List.forall_mem_nil _))
      cases current with
      | nil => exact hRest
      | cons d current =>
        rw [wordsFrom_of_end (by simp) (by simp [hBlank])]
        exact .word (by simp) (hReverse h) (by simp [hBlank]) hRest
    | false =>
      have hMore := ih (List.forall_mem_cons.mpr ⟨hBlank, h⟩)
      rw [List.reverse_cons, List.append_assoc] at hMore
      rwa [wordsFrom, hBlank, if_neg Bool.false_ne_true]

/-- A text has its words in one way only. -/
theorem hasWords_iff {text : List Char} {found : List (List Char)} :
    HasWords text found ↔ found = words text := by
  constructor
  · intro h
    induction h with
    | nil => rfl
    | blank hBlank _ ih => rw [words_cons_of_blank hBlank, ih]
    | @word word rest found hSome hWord hEnd _ ih =>
      rw [words, wordsFrom_append hWord, List.append_nil,
        wordsFrom_of_end (by simpa using hSome) hEnd, List.reverse_reverse, ih]
  · rintro rfl
    exact hasWords_wordsFrom (List.forall_mem_nil _) text

end Text

namespace Keyword

/-! ### Numbers and units -/

/-- A word of digits, and the number that it spells. -/
def Digits (word : List Char) (n : Nat) : Prop :=
  word ≠ [] ∧ (∀ c ∈ word, c.isDigit = true) ∧ n = Nat.ofDigitChars 10 word 0

/-- A word of digits, with or without a plus sign before them. -/
def Amount (word : List Char) (n : Nat) : Prop :=
  Digits word n ∨ ∃ digits, word = '+' :: digits ∧ Digits digits n

theorem Digits.not_plus {digits : List Char} {n : Nat} (h : Digits digits n) (rest : List Char) :
    digits ≠ '+' :: rest := by
  rintro rfl
  exact absurd (h.2.1 '+' List.mem_cons_self) (by decide)

theorem amount?_plus (digits : List Char) : amount? ('+' :: digits) = readDigits? digits :=
  rfl

theorem amount?_of_not_plus {word : List Char} (h : ∀ digits, word ≠ '+' :: digits) :
    amount? word = readDigits? word := by
  unfold amount?
  split
  · next digits => exact absurd rfl (h digits)
  · rfl

/-- Digits are read as the number that they spell, if it is a signed 64-bit number. -/
theorem readDigits?_eq_some_iff {digits : List Char} {n : Nat} :
    readDigits? digits = some n ↔ Digits digits n ∧ n ≤ maxSigned64 := by
  have hValue : digits.foldl (fun total c => total * 10 + (c.toNat - 48)) 0 =
      Nat.ofDigitChars 10 digits 0 := by
    simp only [Nat.ofDigitChars_eq_foldl, Nat.mul_comm, Char.reduceToNat]
  rw [readDigits?, hValue]
  by_cases hDigits : digits ≠ [] ∧ ∀ c ∈ digits, c.isDigit = true
  · have hRead : (digits.isEmpty || !digits.all Char.isDigit) = false := by simpa using hDigits
    simp only [hRead, Bool.false_eq_true, if_false, Option.ite_none_right_eq_some,
      Option.some.injEq, Digits]
    constructor
    · rintro ⟨hFits, rfl⟩
      exact ⟨⟨hDigits.1, hDigits.2, rfl⟩, hFits⟩
    · rintro ⟨⟨-, -, rfl⟩, hFits⟩
      exact ⟨hFits, rfl⟩
  · have hRefused : (digits.isEmpty || !digits.all Char.isDigit) = true := by
      by_contra hRead
      exact hDigits (by simpa using hRead)
    simp only [hRefused, if_true, reduceCtorEq, false_iff]
    exact fun h => hDigits ⟨h.1.1, h.1.2.1⟩

theorem amount?_eq_some_iff {word : List Char} {n : Nat} :
    amount? word = some n ↔ Amount word n ∧ n ≤ maxSigned64 := by
  by_cases hPlus : ∃ digits, word = '+' :: digits
  · obtain ⟨digits, rfl⟩ := hPlus
    have hAmount : Amount ('+' :: digits) n ↔ Digits digits n := by
      constructor
      · rintro (hDigits | ⟨others, hSame, hDigits⟩)
        · exact absurd rfl (hDigits.not_plus digits)
        · rwa [(List.cons.inj hSame).2]
      · exact fun hDigits => .inr ⟨digits, rfl, hDigits⟩
    rw [hAmount, amount?_plus, readDigits?_eq_some_iff]
  · have hAmount : Amount word n ↔ Digits word n :=
      or_iff_left fun ⟨digits, hSame, _⟩ => hPlus ⟨digits, hSame⟩
    rw [hAmount, amount?_of_not_plus fun digits hSame => hPlus ⟨digits, hSame⟩,
      readDigits?_eq_some_iff]

/-- The units of time with their seconds. -/
def units : List (String × Nat) :=
  [("second", 1), ("minute", 60), ("hour", 3600), ("day", 86400), ("week", 604800)]

/-- A word that names a unit with so many letters s behind the name. -/
def UnitWord (letters : Nat) (word : List Char) (seconds : Nat) : Prop :=
  ∃ name, (name, seconds) ∈ units ∧ word = name.toList ++ List.replicate letters 's'

theorem unitSeconds?_eq_some_iff {name : List Char} {seconds : Nat} :
    unitSeconds? name = some seconds ↔ (String.ofList name, seconds) ∈ units := by
  unfold unitSeconds? units
  generalize String.ofList name = text
  split <;> simp_all [eq_comm]

theorem singular_append_replicate (cs : List Char) (letters : Nat) :
    singular (cs ++ List.replicate letters 's') = singular cs := by
  rw [singular, List.reverse_append, List.reverse_replicate,
    List.dropWhile_append_of_pos (by simp), singular]

theorem exists_eq_singular_append (word : List Char) :
    ∃ letters, word = singular word ++ List.replicate letters 's' := by
  have hEnd : word.reverse.takeWhile (· = 's') =
      List.replicate (word.reverse.takeWhile (· = 's')).length 's' :=
    List.eq_replicate_of_mem fun c hc => by simpa using List.mem_takeWhile_imp hc
  refine ⟨(word.reverse.takeWhile (· = 's')).length, ?_⟩
  rw [singular, ← List.reverse_replicate, ← hEnd, ← List.reverse_append,
    List.takeWhile_append_dropWhile, List.reverse_reverse]

theorem singular_of_mem_units {name : String} {seconds : Nat} (h : (name, seconds) ∈ units) :
    singular name.toList = name.toList := by
  have hEach : ∀ entry ∈ units, singular entry.1.toList = entry.1.toList := by decide
  exact hEach _ h

theorem unitSeconds?_singular_eq_some_iff {word : List Char} {seconds : Nat} :
    unitSeconds? (singular word) = some seconds ↔ ∃ letters, UnitWord letters word seconds := by
  rw [unitSeconds?_eq_some_iff]
  constructor
  · intro h
    obtain ⟨letters, hWord⟩ := exists_eq_singular_append word
    exact ⟨letters, _, h, by rwa [String.toList_ofList]⟩
  · rintro ⟨letters, name, hName, rfl⟩
    rwa [singular_append_replicate, singular_of_mem_units hName, String.ofList_toList]

/-! ### Windows -/

theorem checkWindow_eq_ok_iff {seconds window : Nat} :
    checkWindow seconds = .ok window ↔ window = seconds ∧ seconds ≤ maxWindow := by
  unfold checkWindow
  split
  · next hWide =>
    simp only [reduceCtorEq, false_iff, not_and]
    exact fun _ hFits => Nat.not_lt.mpr hFits hWide
  · next hFits =>
    rw [Except.ok.injEq, eq_comm]
    exact (and_iff_left (Nat.not_lt.mp hFits)).symm

/-- Some units make a window if they are not none, and if the window is not too wide. -/
theorem window?_eq_ok_iff {amount : Option Nat} {word : List Char} {window : Nat} :
    window? amount word = some (.ok window) ↔
      ∃ n seconds, amount = some n ∧ 0 < n ∧ (∃ letters, UnitWord letters word seconds) ∧
        n * seconds ≤ maxWindow ∧ window = n * seconds := by
  simp only [← unitSeconds?_singular_eq_some_iff]
  cases amount with
  | none => simp [window?]
  | some n =>
    cases hUnit : unitSeconds? (singular word) with
    | none => simp [window?, hUnit]
    | some seconds =>
      by_cases hNone : n = 0
      · simp [window?, hUnit, hNone]
      · simp [window?, hUnit, hNone, checkWindow_eq_ok_iff, Nat.pos_iff_ne_zero, and_comm]

theorem pos_of_unitWord {letters seconds : Nat} {word : List Char}
    (h : UnitWord letters word seconds) : 0 < seconds := by
  have hEach : ∀ entry ∈ units, 0 < entry.2 := by decide
  obtain ⟨name, hName, -⟩ := h
  exact hEach _ hName

/-! ### The grammar -/

/-- A text names a window, with words for numbers and for units of the given kinds. -/
inductive Names (amount unit : List Char → Nat → Prop) (text : List Char) : Keyword → Prop
  | today (hText : text = "today".toList) : Names amount unit text .today
  | yesterday (hText : text = "yesterday".toList) : Names amount unit text .yesterday
  | last {word : List Char} {seconds : Nat} (hWords : Text.HasWords text ["last".toList, word])
      (hUnit : unit word seconds) (hWindow : seconds ≤ maxWindow) :
      Names amount unit text (.last seconds)
  | lastMany {number word : List Char} {n seconds : Nat}
      (hWords : Text.HasWords text ["last".toList, number, word]) (hAmount : amount number n)
      (hPositive : 0 < n) (hUnit : unit word seconds) (hWindow : n * seconds ≤ maxWindow) :
      Names amount unit text (.last (n * seconds))

/-- The windows of the documented grammar: a number is a word of digits, and a unit has at most one
letter s behind its name. -/
def Documented : List Char → Keyword → Prop :=
  Names Digits fun word seconds => ∃ letters ≤ 1, UnitWord letters word seconds

/-- The windows that are understood: a number may also have a plus sign, and a unit any number of
letters s. -/
def Understood : List Char → Keyword → Prop :=
  Names Amount fun word seconds => ∃ letters, UnitWord letters word seconds

theorem ofWords?_eq_ok_iff {text : List Char} {seconds : Nat} :
    ofWords? (Text.words text) = some (.ok seconds) ↔ Understood text (.last seconds) := by
  constructor
  · intro h
    generalize hWords : Text.words text = words at h
    unfold ofWords? at h
    split at h
    · next word unitWord =>
      split at h
      · next hLast =>
        obtain ⟨n, unit, hOne, -, hUnit, hWindow, rfl⟩ := window?_eq_ok_iff.mp h
        obtain rfl := Option.some.inj hOne
        rw [Nat.one_mul] at hWindow ⊢
        exact .last (Text.hasWords_iff.mpr (hLast ▸ hWords.symm)) hUnit hWindow
      · contradiction
    · next word number unitWord =>
      split at h
      · next hLast =>
        obtain ⟨n, unit, hAmount, hPositive, hUnit, hWindow, rfl⟩ := window?_eq_ok_iff.mp h
        exact .lastMany (Text.hasWords_iff.mpr (hLast ▸ hWords.symm))
          (amount?_eq_some_iff.mp hAmount).1 hPositive hUnit hWindow
      · contradiction
    · contradiction
  · intro h
    cases h with
    | last hWords hUnit hWindow =>
      rw [← Text.hasWords_iff.mp hWords, ofWords?, if_pos rfl]
      refine window?_eq_ok_iff.mpr ⟨1, seconds, rfl, Nat.one_pos, hUnit, ?_, ?_⟩
      · rwa [Nat.one_mul]
      · rw [Nat.one_mul]
    | @lastMany number word n unit hWords hAmount hPositive hUnit hWindow =>
      -- A number in front of a unit that fits the window is small enough to be read.
      have hFits : n ≤ maxSigned64 := by
        obtain ⟨letters, hUnitWord⟩ := hUnit
        calc
          n ≤ n * unit := Nat.le_mul_of_pos_right n (pos_of_unitWord hUnitWord)
          _ ≤ maxWindow := hWindow
          _ ≤ maxSigned64 := by decide
      have hRead : amount? number = some n := amount?_eq_some_iff.mpr ⟨hAmount, hFits⟩
      rw [← Text.hasWords_iff.mp hWords, ofWords?, if_pos rfl]
      exact window?_eq_ok_iff.mpr ⟨n, unit, hRead, hPositive, hUnit, hWindow, rfl⟩

theorem Names.le_maxWindow {amount unit : List Char → Nat → Prop} {text : List Char}
    {seconds : Nat} (h : Names amount unit text (.last seconds)) : seconds ≤ maxWindow := by
  cases h with
  | last _ _ hWindow => exact hWindow
  | lastMany _ _ _ _ hWindow => exact hWindow

/-- A text of one word names the window of that word. -/
theorem Names.of_single {amount unit : List Char → Nat → Prop} {text word : List Char}
    {window : Keyword} (h : Names amount unit text window) (hSingle : Text.words text = [word]) :
    (text = "today".toList ∧ window = .today) ∨
      (text = "yesterday".toList ∧ window = .yesterday) := by
  cases h with
  | today hText => exact .inl ⟨hText, rfl⟩
  | yesterday hText => exact .inr ⟨hText, rfl⟩
  | last hWords => simp [← Text.hasWords_iff.mp hWords] at hSingle
  | lastMany hWords => simp [← Text.hasWords_iff.mp hWords] at hSingle

/-- Exactly the texts that name a window are read, as the window that they name. -/
theorem read_eq_ok_iff {text : String} {window : Keyword} :
    read text = .ok window ↔ Understood (normalized text) window := by
  rw [read]
  -- The fixed words are looked for first.  A text of one word is no number of units, so that
  -- this order takes nothing away.
  by_cases hToday : normalized text = "today".toList
  · have hSingle : Text.words (normalized text) = ["today".toList] := by
      rw [hToday]
      decide
    rw [if_pos hToday, Except.ok.injEq]
    constructor
    · rintro rfl
      exact .today hToday
    · intro h
      rcases h.of_single hSingle with ⟨-, rfl⟩ | ⟨hOther, -⟩
      · rfl
      · exact absurd (hToday.symm.trans hOther) (by decide)
  · rw [if_neg hToday]
    by_cases hYesterday : normalized text = "yesterday".toList
    · have hSingle : Text.words (normalized text) = ["yesterday".toList] := by
        rw [hYesterday]
        decide
      rw [if_pos hYesterday, Except.ok.injEq]
      constructor
      · rintro rfl
        exact .yesterday hYesterday
      · intro h
        rcases h.of_single hSingle with ⟨hOther, -⟩ | ⟨-, rfl⟩
        · contradiction
        · rfl
    · rw [if_neg hYesterday]
      constructor
      · intro h
        split at h
        · contradiction
        · contradiction
        · next seconds hWindow =>
          rw [← Except.ok.inj h]
          exact ofWords?_eq_ok_iff.mp hWindow
      · intro h
        cases window with
        | today =>
          cases h
          contradiction
        | yesterday =>
          cases h
          contradiction
        | last seconds => rw [ofWords?_eq_ok_iff.mpr h]

/-! ### Beyond the documented grammar -/

/-- A word without a plus sign in front and without two letters s at its end. -/
def IsPlain (word : List Char) : Prop :=
  word.head? ≠ some '+' ∧ ¬ ['s', 's'] <:+ word

instance (word : List Char) : Decidable (IsPlain word) :=
  inferInstanceAs (Decidable (_ ∧ _))

theorem isPlain_of_digits {word : List Char} {n : Nat} (h : Digits word n) : IsPlain word := by
  obtain ⟨-, hDigits, -⟩ := h
  constructor
  · intro hHead
    exact absurd (hDigits '+' (List.mem_of_mem_head? hHead)) (by decide)
  · intro hEnd
    exact absurd (hDigits 's' (hEnd.subset List.mem_cons_self)) (by decide)

/-- Of the words for a unit, those with at most one letter s behind the name are plain. -/
theorem isPlain_iff_of_unitWord {letters seconds : Nat} {word : List Char}
    (h : UnitWord letters word seconds) : IsPlain word ↔ letters ≤ 1 := by
  obtain ⟨name, hName, rfl⟩ := h
  have hFew : ∀ entry ∈ units, ∀ few ≤ 1, IsPlain (entry.1.toList ++ List.replicate few 's') := by
    decide
  refine ⟨fun hPlain => ?_, hFew _ hName letters⟩
  by_contra hMany
  obtain ⟨more, rfl⟩ : ∃ more, letters = more + 2 := ⟨letters - 2, by omega⟩
  refine hPlain.2 ⟨name.toList ++ List.replicate more 's', ?_⟩
  rw [List.replicate_add, List.append_assoc]
  rfl

theorem forall_isPlain_iff {text : List Char} {words : List (List Char)}
    (h : Text.HasWords text ("last".toList :: words)) :
    (∀ word ∈ Text.words text, IsPlain word) ↔ ∀ word ∈ words, IsPlain word := by
  have hLast : IsPlain "last".toList := by decide
  rw [← Text.hasWords_iff.mp h, List.forall_mem_cons, and_iff_right hLast]

/-- What is documented are the windows that are named by plain words alone. -/
theorem documented_iff {text : List Char} {window : Keyword} :
    Documented text window ↔
      Understood text window ∧ ∀ word ∈ Text.words text, IsPlain word := by
  constructor
  · intro h
    cases h with
    | today hText => exact ⟨.today hText, by rw [hText]; decide⟩
    | yesterday hText => exact ⟨.yesterday hText, by rw [hText]; decide⟩
    | last hWords hUnit hWindow =>
      obtain ⟨letters, hFew, hUnit⟩ := hUnit
      refine ⟨.last hWords ⟨letters, hUnit⟩ hWindow, (forall_isPlain_iff hWords).mpr ?_⟩
      exact List.forall_mem_singleton.mpr ((isPlain_iff_of_unitWord hUnit).mpr hFew)
    | lastMany hWords hAmount hPositive hUnit hWindow =>
      obtain ⟨letters, hFew, hUnit⟩ := hUnit
      refine ⟨.lastMany hWords (.inl hAmount) hPositive ⟨letters, hUnit⟩ hWindow,
        (forall_isPlain_iff hWords).mpr ?_⟩
      rw [List.forall_mem_cons, List.forall_mem_singleton]
      exact ⟨isPlain_of_digits hAmount, (isPlain_iff_of_unitWord hUnit).mpr hFew⟩
  · rintro ⟨h, hPlain⟩
    cases h with
    | today hText => exact .today hText
    | yesterday hText => exact .yesterday hText
    | last hWords hUnit hWindow =>
      obtain ⟨letters, hUnit⟩ := hUnit
      have hUnitPlain := List.forall_mem_singleton.mp ((forall_isPlain_iff hWords).mp hPlain)
      exact .last hWords ⟨letters, (isPlain_iff_of_unitWord hUnit).mp hUnitPlain, hUnit⟩ hWindow
    | lastMany hWords hAmount hPositive hUnit hWindow =>
      obtain ⟨letters, hUnit⟩ := hUnit
      obtain ⟨hNumberPlain, hUnitPlain⟩ :=
        List.forall_mem_cons.mp ((forall_isPlain_iff hWords).mp hPlain)
      have hFew := (isPlain_iff_of_unitWord hUnit).mp (List.forall_mem_singleton.mp hUnitPlain)
      rcases hAmount with hDigits | ⟨digits, rfl, -⟩
      · exact .lastMany hWords hDigits hPositive ⟨letters, hFew, hUnit⟩ hWindow
      · exact absurd rfl hNumberPlain.1

end Keyword

namespace TimeRange

open Keyword

theorem keyword?_none (text : String) :
    keyword? text none = (lift (read text)).map fun _ => .keyword text none := by
  rw [keyword?]
  cases lift (read text) <;> rfl

/-- A keyword is accepted exactly if it names a window, and otherwise it is refused as a time range
that makes no sense.  What is accepted beyond the documented grammar are numbers with a plus sign
and units with more than one letter s. -/
theorem keyword_accepted_iff (text : String) :
    ((∃ range, keyword? text none = .ok range) ↔
        ∃ window, Understood (normalized text) window) ∧
      ((∃ error, keyword? text none = .error (.window error)) ↔
        ¬ ∃ window, Understood (normalized text) window) ∧
      ∀ window, Documented (normalized text) window ↔
        Understood (normalized text) window ∧
          ∀ word ∈ Text.words (normalized text), IsPlain word := by
  refine ⟨?_, ?_, fun window => documented_iff⟩
  · simp only [← read_eq_ok_iff, keyword?_none, exists_map_eq_ok_iff, lift, mapError_eq_ok]
  · simp only [← read_eq_ok_iff, keyword?_none, map_eq_error, lift]
    cases read text <;> simp [Except.mapError]

/-- A plus sign before the number and further letters s behind the unit are no part of the
documented grammar, and are accepted all the same. -/
theorem keyword_accepted_beyond_grammar :
    let beyond (text : String) : Prop :=
      (∃ range, keyword? text none = .ok range) ∧ ¬ ∃ window, Documented (normalized text) window
    beyond "last +5 minutes" ∧ beyond "last 5 minutesss" := by
  have hBeyond {text : String} (hRead : ∃ range, keyword? text none = .ok range)
      (hPlain : ¬ ∀ word ∈ Text.words (normalized text), IsPlain word) :
      (∃ range, keyword? text none = .ok range) ∧
        ¬ ∃ window, Documented (normalized text) window :=
    ⟨hRead, fun ⟨_, hWindow⟩ => hPlain (documented_iff.mp hWindow).2⟩
  exact ⟨hBeyond ⟨_, rfl⟩ (by decide), hBeyond ⟨_, rfl⟩ (by decide)⟩

end TimeRange

end LogSearch
