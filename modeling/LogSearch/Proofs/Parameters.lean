import LogSearch.QueryText

/-!
# Parameters of query texts

A text is split from the left: where a whole reference starts, a name between
dollar signs, it is taken as one part, and otherwise a single character is taken.
`Split` says this without the scanner, in particular that a character is taken
only where no reference starts and that reading goes on behind the closing dollar
sign.  Every text has exactly one split, which is `pieces`.

The parameters of a text and its bound form both come from the split, so they
cannot disagree on what counts as a reference.  `Filled` says what the bound form
is: the values are put in whole, and what is read on is the rest of the split,
never a value.  Binding fails exactly if this is impossible, and reports the least
name that has no value.
-/

namespace LogSearch

/-- A member of an ascending list is found exactly if it is the least one that is accepted. -/
theorem find?_eq_some_iff_least {keep : String → Bool} {names : List String} {name : String}
    (hAscending : names.Pairwise (· < ·)) :
    names.find? keep = some name ↔
      name ∈ names ∧ keep name = true ∧
        ∀ other ∈ names, keep other = true → ¬ other < name := by
  have hLeast {found : String} (h : names.find? keep = some found) :
      ∀ other ∈ names, keep other = true → ¬ other < found := by
    obtain ⟨-, before, after, rfl, hBefore⟩ := List.find?_eq_some_iff_append.mp h
    intro other hOther hKeep hLt
    rcases List.mem_append.mp hOther with hEarlier | hLater
    · have hRefused := hBefore other hEarlier
      simp [hKeep] at hRefused
    · have hSorted := (List.pairwise_append.mp hAscending).2.1
      rcases List.mem_cons.mp hLater with rfl | hAfter
      · exact String.lt_irrefl _ hLt
      · exact String.lt_asymm hLt ((List.pairwise_cons.mp hSorted).1 other hAfter)
  constructor
  · intro h
    exact ⟨List.mem_of_find?_eq_some h, List.find?_some h, hLeast h⟩
  · rintro ⟨hMem, hKeep, hMinimal⟩
    cases hFound : names.find? keep with
    | none =>
      have hRefused := List.find?_eq_none.mp hFound name hMem
      contradiction
    | some found =>
      have hEarlier := hMinimal found (List.mem_of_find?_eq_some hFound) (List.find?_some hFound)
      have hLater := hLeast hFound name hMem hKeep
      rw [name_eq_of_not_lt hEarlier hLater]

theorem Keyed.not_contains_iff {α : Type} {table : Keyed α} {name : String} :
    (!table.contains name) = true ↔ table.get? name = none := by
  simp [Keyed.contains]

namespace QueryText

/-! ### References -/

/-- A name that a parameter can have: an ASCII letter or an underscore, and then letters, digits
and underscores. -/
def IsName : List Char → Prop
  | [] => False
  | first :: rest => (first.isAlpha = true ∨ first = '_') ∧
      ∀ c ∈ rest, c.isAlphanum = true ∨ c = '_'

/-- A text starts with a reference to a parameter, behind which the rest follows. -/
def StartsWith (text name rest : List Char) : Prop :=
  IsName name ∧ text = '$' :: (name ++ '$' :: rest)

theorem isNameStart_iff {c : Char} : isNameStart c = true ↔ c.isAlpha = true ∨ c = '_' := by
  have hUpper : c.isUpper = decide ('A' ≤ c ∧ c ≤ 'Z') := rfl
  have hLower : c.isLower = (decide ('a' ≤ c) && decide (c ≤ 'z')) := rfl
  have hAlpha : c.isAlpha = (c.isUpper || c.isLower) := rfl
  simp [isNameStart, hAlpha, hUpper, hLower, or_comm]

theorem isNamePart_iff {c : Char} : isNamePart c = true ↔ c.isAlphanum = true ∨ c = '_' := by
  have hDigit : (decide ('0' ≤ c) && decide (c ≤ '9')) = c.isDigit := by
    simp [Char.isDigit, Char.le_def]
  rw [isNamePart, hDigit, Bool.or_eq_true, isNameStart_iff, Char.isAlphanum, Bool.or_eq_true]
  exact or_right_comm

theorem isNamePart_dollar : isNamePart '$' = false := by decide

theorem takeWhile_isNamePart {name : List Char} (h : ∀ c ∈ name, isNamePart c = true)
    (rest : List Char) : (name ++ '$' :: rest).takeWhile isNamePart = name := by
  rw [List.takeWhile_append_of_pos h, List.takeWhile_cons, isNamePart_dollar]
  exact List.append_nil name

theorem dropWhile_isNamePart {name : List Char} (h : ∀ c ∈ name, isNamePart c = true)
    (rest : List Char) : (name ++ '$' :: rest).dropWhile isNamePart = '$' :: rest := by
  rw [List.dropWhile_append_of_pos h, List.dropWhile_cons, isNamePart_dollar]
  rfl

/-- A reference is found exactly where one starts, and with it its name and what follows. -/
theorem reference?_eq_some_iff {cs name rest : List Char} :
    reference? cs = some (name, rest) ↔ StartsWith ('$' :: cs) name rest := by
  unfold StartsWith
  constructor
  · intro h
    cases cs with
    | nil => contradiction
    | cons first tail =>
      simp only [reference?] at h
      split at h
      · next hStart =>
        split at h
        · next after hDrop =>
          obtain ⟨rfl, rfl⟩ := Prod.mk.inj (Option.some.inj h)
          have hParts : ∀ c ∈ tail.takeWhile isNamePart, isNamePart c = true :=
            List.all_eq_true.mp List.all_takeWhile
          have hTail : tail = tail.takeWhile isNamePart ++ '$' :: after := by
            rw [← hDrop, List.takeWhile_append_dropWhile]
          refine ⟨⟨isNameStart_iff.mp hStart, fun c hc => isNamePart_iff.mp (hParts c hc)⟩, ?_⟩
          rw [List.cons_append, ← hTail]
        · contradiction
      · contradiction
  · rintro ⟨hName, hText⟩
    obtain rfl := (List.cons.inj hText).2
    cases name with
    | nil => exact hName.elim
    | cons first name =>
      -- the name is the longest run of its characters, since the closing dollar sign is none
      have hStart := isNameStart_iff.mpr hName.1
      have hParts : ∀ c ∈ name, isNamePart c = true :=
        fun c hc => isNamePart_iff.mpr (hName.2 c hc)
      simp only [List.cons_append, reference?, hStart, if_true, takeWhile_isNamePart hParts,
        dropWhile_isNamePart hParts]

/-! ### Splitting a text -/

/-- The parts of a text, from the left: a reference where one starts, otherwise a character. -/
inductive Split : List Char → List Piece → Prop
  | nil : Split [] []
  | parameter {text name rest : List Char} {parts : List Piece}
      (hReference : StartsWith text name rest) (hRest : Split rest parts) :
      Split text (.parameter (String.ofList name) :: parts)
  | literal {c : Char} {rest : List Char} {parts : List Piece}
      (hNone : ∀ name after, ¬ StartsWith (c :: rest) name after) (hRest : Split rest parts) :
      Split (c :: rest) (.literal c :: parts)

theorem pieces_of_startsWith {text name rest : List Char} (h : StartsWith text name rest) :
    pieces text = .parameter (String.ofList name) :: pieces rest := by
  obtain ⟨hName, rfl⟩ := h
  have hReference : reference? (name ++ '$' :: rest) = some (name, rest) :=
    reference?_eq_some_iff.mpr ⟨hName, rfl⟩
  rw [pieces, if_pos rfl]
  split
  · next found after hFound =>
    obtain ⟨rfl, rfl⟩ := Prod.mk.inj (Option.some.inj (hFound.symm.trans hReference))
    rfl
  · next hMissing =>
    rw [hReference] at hMissing
    contradiction

theorem pieces_of_not_startsWith {c : Char} {rest : List Char}
    (h : ∀ name after, ¬ StartsWith (c :: rest) name after) :
    pieces (c :: rest) = .literal c :: pieces rest := by
  rw [pieces]
  split
  · next hDollar =>
    split
    · next name after hFound => exact absurd (hDollar ▸ reference?_eq_some_iff.mp hFound) (h _ _)
    · rfl
  · rfl

theorem split_pieces (text : List Char) : Split text (pieces text) := by
  induction text using pieces.induct with
  | case1 =>
    rw [pieces]
    exact .nil
  | case2 rest name after hFound ih =>
    have hReference := reference?_eq_some_iff.mp hFound
    rw [pieces_of_startsWith hReference]
    exact .parameter hReference ih
  | case3 rest hMissing ih =>
    have hNone : ∀ name after, ¬ StartsWith ('$' :: rest) name after := by
      intro name after hReference
      rw [reference?_eq_some_iff.mpr hReference] at hMissing
      contradiction
    rw [pieces_of_not_startsWith hNone]
    exact .literal hNone ih
  | case4 c rest hOther ih =>
    have hNone : ∀ name after, ¬ StartsWith (c :: rest) name after :=
      fun _ _ hReference => hOther (List.cons.inj hReference.2).1
    rw [pieces_of_not_startsWith hNone]
    exact .literal hNone ih

/-- A text can be split in one way only. -/
theorem split_iff {text : List Char} {parts : List Piece} :
    Split text parts ↔ parts = pieces text := by
  constructor
  · intro h
    induction h with
    | nil => rw [pieces]
    | parameter hReference hRest ih => rw [pieces_of_startsWith hReference, ih]
    | literal hNone hRest ih => rw [pieces_of_not_startsWith hNone, ih]
  · rintro rfl
    exact split_pieces text

theorem mem_usedParameters {text : QueryText} {name : String} :
    name ∈ text.usedParameters ↔ Piece.parameter name ∈ pieces text.text.toList := by
  rw [usedParameters, NameSet.mem_ofList, List.mem_filterMap]
  constructor
  · rintro ⟨part, hPart, hName⟩
    cases part with
    | literal c => contradiction
    | parameter found => rwa [← Option.some.inj hName]
  · intro hPart
    exact ⟨_, hPart, rfl⟩

/-! ### Parameters without a value -/

/-- The text refers to parameters without a value, of which the least is reported. -/
def Unbound (text : QueryText) (bindings : Keyed Json) (error : SearchError) : Prop :=
  ∃ name, error = .unboundParameter name ∧ name ∈ text.usedParameters ∧
    bindings.get? name = none ∧
    ∀ other ∈ text.usedParameters, bindings.get? other = none → ¬ other < name

theorem bind_eq_error_iff {bindings : Keyed Json} {text : QueryText}
    {error : SearchError} : text.bind bindings = .error error ↔ text.Unbound bindings error := by
  have hFind (name : String) :
      (text.usedParameters.toList.find? fun name => !bindings.contains name) = some name ↔
        name ∈ text.usedParameters.toList ∧ bindings.get? name = none ∧
          ∀ other ∈ text.usedParameters.toList, bindings.get? other = none → ¬ other < name := by
    rw [find?_eq_some_iff_least text.usedParameters.ascending]
    simp only [Keyed.not_contains_iff]
  unfold bind Unbound
  cases hFound : text.usedParameters.toList.find? fun name => !bindings.contains name with
  | none =>
    have hNone (name : String) := (not_congr (hFind name)).mp (by simp [hFound])
    simp only [reduceCtorEq, false_iff, not_exists, not_and]
    intro name _ hMem hMissing hMinimal
    exact hNone name ⟨hMem, hMissing, hMinimal⟩
  | some found =>
    constructor
    · rintro ⟨⟩
      exact ⟨found, rfl, (hFind found).mp hFound⟩
    · rintro ⟨name, rfl, hLeast⟩
      have hName := (hFind name).mpr hLeast
      rw [hFound] at hName
      rw [Option.some.inj hName]

/-! ### Putting the values in -/

theorem standsAs_iff {value : Json} {shown : String} :
    value.StandsAs shown ↔ shown = valueText value := by
  constructor
  · intro h
    cases h with
    | text content => rfl
    | other hOther =>
      cases value with
      | str content => exact absurd rfl (hOther content)
      | _ => rfl
  · rintro rfl
    cases value with
    | str content => exact .text content
    | _ => exact .other fun _ h => nomatch h

/-- The text that the parts of a split make with the values of the parameters put in.  Characters
stay, and behind a value it goes on with the next part. -/
inductive Filled (bindings : Keyed Json) : List Piece → String → Prop
  | nil : Filled bindings [] ""
  | literal {c : Char} {parts : List Piece} {text : String} (hRest : Filled bindings parts text) :
      Filled bindings (.literal c :: parts) (String.singleton c ++ text)
  | parameter {name shown : String} {value : Json} {parts : List Piece} {text : String}
      (hValue : bindings.get? name = some value) (hShown : value.StandsAs shown)
      (hRest : Filled bindings parts text) :
      Filled bindings (.parameter name :: parts) (shown ++ text)

section Filling

variable {bindings : Keyed Json}

theorem render_parameter {name : String} {value : Json} (h : bindings.get? name = some value) :
    Piece.render bindings (.parameter name) = valueText value := by
  simp only [Piece.render, h]

/-- The parts can be filled exactly if all parameters have values, and in one way only. -/
theorem filled_iff {parts : List Piece} {bound : String} :
    Filled bindings parts bound ↔
      (∀ name, Piece.parameter name ∈ parts → bindings.get? name ≠ none) ∧
        bound = String.join (parts.map (Piece.render bindings)) := by
  constructor
  · intro h
    induction h with
    | nil => simp
    | literal hRest ih =>
      obtain ⟨hBound, rfl⟩ := ih
      refine ⟨fun name hName => ?_, ?_⟩
      · rcases List.mem_cons.mp hName with hFirst | hLater
        · contradiction
        · exact hBound name hLater
      · rw [List.map_cons, String.join_cons]
        rfl
    | parameter hValue hShown hRest ih =>
      obtain ⟨hBound, rfl⟩ := ih
      refine ⟨fun name hName => ?_, ?_⟩
      · rcases List.mem_cons.mp hName with hFirst | hLater
        · rw [Piece.parameter.inj hFirst, hValue]
          exact Option.some_ne_none _
        · exact hBound name hLater
      · rw [List.map_cons, String.join_cons, render_parameter hValue, standsAs_iff.mp hShown]
  · rintro ⟨hBound, rfl⟩
    induction parts with
    | nil => exact .nil
    | cons first rest ih =>
      have hRest := ih fun name hName => hBound name (List.mem_cons_of_mem _ hName)
      rw [List.map_cons, String.join_cons]
      cases first with
      | literal c => exact .literal hRest
      | parameter name =>
        obtain ⟨value, hValue⟩ := Option.ne_none_iff_exists'.mp (hBound name List.mem_cons_self)
        rw [render_parameter hValue]
        exact .parameter hValue (standsAs_iff.mpr rfl) hRest

variable {text : QueryText}

/-- Binding succeeds exactly if the parts of the text can be filled. -/
theorem bind_eq_ok_iff {bound : QueryText} :
    text.bind bindings = .ok bound ↔ Filled bindings (pieces text.text.toList) bound.text := by
  have hBound :
      (text.usedParameters.toList.find? fun name => !bindings.contains name) = none ↔
        ∀ name, Piece.parameter name ∈ pieces text.text.toList → bindings.get? name ≠ none := by
    simp only [List.find?_eq_none, ← NameSet.mem_def, mem_usedParameters, Keyed.not_contains_iff,
      ne_eq]
  rw [filled_iff, ← hBound, bind]
  cases text.usedParameters.toList.find? fun name => !bindings.contains name with
  | none =>
    simp only [Except.ok.injEq, true_and]
    constructor
    · rintro rfl
      rfl
    · intro hText
      rw [← hText]
  | some name => simp

theorem bind_fails_iff :
    (∃ error, text.bind bindings = .error error) ↔
      ∃ name, Piece.parameter name ∈ pieces text.text.toList ∧ bindings.get? name = none := by
  constructor
  · rintro ⟨error, hError⟩
    obtain ⟨name, -, hName, hNone, -⟩ := bind_eq_error_iff.mp hError
    exact ⟨name, mem_usedParameters.mp hName, hNone⟩
  · rintro ⟨name, hName, hNone⟩
    cases hBind : text.bind bindings with
    | error error => exact ⟨error, rfl⟩
    | ok bound =>
      have hBound := (filled_iff.mp (bind_eq_ok_iff.mp hBind)).1 name hName
      contradiction

/-- Only the values of the parameters that a text refers to are looked at. -/
theorem bind_congr {others : Keyed Json}
    (h : ∀ name ∈ text.usedParameters, others.get? name = bindings.get? name) :
    text.bind others = text.bind bindings := by
  have hContains : ∀ name ∈ text.usedParameters.toList,
      (!others.contains name) = !bindings.contains name :=
    fun name hName => by rw [Keyed.contains, Keyed.contains, h name hName]
  have hRender : ∀ part ∈ pieces text.text.toList,
      Piece.render others part = Piece.render bindings part := by
    intro part hPart
    cases part with
    | literal c => rfl
    | parameter name => simp only [Piece.render, h name (mem_usedParameters.mpr hPart)]
  rw [bind, bind, List.map_congr_left hRender, ← List.head?_filter, ← List.head?_filter,
    List.filter_congr hContains]

end Filling

/-- Binding puts values into the one split that a text has.  The parameters of the text are those of
the split.  Binding fails exactly if one of them has no value, and reports the least such name;
otherwise the result is the split with the values put in, none of which is read again.  Values of
other names make no difference. -/
theorem bind_exact (text : QueryText) (bindings : Keyed Json) :
    ∃ parts, (∀ others, Split text.text.toList others ↔ others = parts) ∧
      (∀ name, name ∈ text.usedParameters ↔ Piece.parameter name ∈ parts) ∧
      ((∃ error, text.bind bindings = .error error) ↔
        ∃ name, Piece.parameter name ∈ parts ∧ bindings.get? name = none) ∧
      (∀ error, text.bind bindings = .error error ↔
        ∃ name, error = .unboundParameter name ∧ Piece.parameter name ∈ parts ∧
          bindings.get? name = none ∧
          ∀ other, Piece.parameter other ∈ parts → bindings.get? other = none → name ≤ other) ∧
      (∀ bound, text.bind bindings = .ok bound ↔ Filled bindings parts bound.text) ∧
      ∀ others : Keyed Json,
        (∀ name ∈ text.usedParameters, others.get? name = bindings.get? name) →
          text.bind others = text.bind bindings := by
  refine ⟨pieces text.text.toList, fun others => split_iff, fun name => mem_usedParameters,
    bind_fails_iff, fun error => ?_, fun bound => bind_eq_ok_iff, fun others => bind_congr⟩
  simp only [bind_eq_error_iff, Unbound, mem_usedParameters, String.not_lt]

/-- The dollar sign that closes the first reference opens no other, and the value put in for it is
not read as a reference. -/
theorem bind_exact_of_shared_dollar :
    let bindings : Keyed Json := .ofList [("a", .str "$b$"), ("b", .bool true)]
    (⟨"$a$b$b$"⟩ : QueryText).bind bindings = .ok ⟨"$b$btrue"⟩ := by
  intro bindings
  obtain ⟨parts, hSplit, -, -, -, hBind, -⟩ := bind_exact ⟨"$a$b$b$"⟩ bindings
  have hParts : [.parameter "a", .literal 'b', .parameter "b"] = parts :=
    (hSplit _).mp (split_iff.mpr (by decide +kernel))
  refine (hBind _).mpr (hParts ▸ ?_)
  have hOther : ∀ content, Json.bool true ≠ .str content := fun _ h => nomatch h
  exact .parameter rfl (.text "$b$") (.literal (.parameter rfl (.other hOther) .nil))

end QueryText

end LogSearch
