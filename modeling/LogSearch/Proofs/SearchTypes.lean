import LogSearch.SearchType.Wire
import LogSearch.Proofs.Outcome

/-!
# Search types that make sense

A search type makes sense if its variant does: a list shows something, pages are
counted from one, a pivot groups by some field, and no two of its series share an
id.  This is exactly what `SearchType.check` lets through, and it is all that is
known of a search type from outside, since everything read or built is checked.

A change of paging is not checked.  It keeps the sense of a search type all the
same, because a limit of zero asks for nothing and every offset lies on a page
that is counted from one.  The page is found by dividing by the page size; that
is never zero where the list made sense before.
-/

namespace LogSearch

/-- What a variant needs to make sense. -/
def SearchDetail.Valid : SearchDetail → Prop
  | .messages list => 1 ≤ list.limit
  | .events list => (∀ page, list.page = some page → 1 ≤ page) ∧
      ∀ perPage, list.perPage = some perPage → 1 ≤ perPage
  | .pivot table => (∀ group ∈ table.rowGroups, group.fields ≠ [] ∧ 0 < group.limit) ∧
      (table.series.map Series.id).Nodup

/-- The search type makes sense. -/
def SearchType.Valid (search : SearchType) : Prop := search.detail.Valid

/-! ### Words of 32 bits -/

theorem one_le_iff_ne_zero {word : UInt32} : 1 ≤ word ↔ word ≠ 0 := by
  rw [UInt32.le_iff_toNat_le, ne_eq, ← UInt32.toNat_inj]
  have hOne : (1 : UInt32).toNat = 1 := rfl
  have hZero : (0 : UInt32).toNat = 0 := rfl
  omega

theorem one_le_iff_ne_some_zero {word? : Option UInt32} :
    (∀ word, word? = some word → 1 ≤ word) ↔ word? ≠ some 0 := by
  constructor
  · intro h hZero
    exact one_le_iff_ne_zero.mp (h 0 hZero) rfl
  · rintro h word rfl
    refine one_le_iff_ne_zero.mpr fun hZero => ?_
    rw [hZero] at h
    exact h rfl

namespace SearchType

/-! ### Checks -/

theorem any_refused_eq_false_iff {groups : List RowGroup} :
    (groups.any fun group => group.fields.isEmpty || group.limit == 0) = false ↔
      ∀ group ∈ groups, group.fields ≠ [] ∧ 0 < group.limit := by
  simp [UInt32.pos_iff_ne_zero]

/-- A check lets the search types through that make sense, as they are. -/
theorem check_eq_ok_iff {search result : SearchType} :
    search.check = .ok result ↔ search.Valid ∧ result = search := by
  unfold check Valid SearchDetail.Valid
  cases search.detail with
  | messages list =>
    simp only [one_le_iff_ne_zero]
    by_cases hLimit : list.limit = 0
    · simp [hLimit]
    · simp [hLimit, eq_comm]
  | events list =>
    simp only [one_le_iff_ne_some_zero]
    by_cases hPage : list.page = some 0
    · simp [hPage]
    · by_cases hSize : list.perPage = some 0
      · simp [hPage, hSize]
      · simp [hPage, hSize, eq_comm]
  | pivot table =>
    simp only [← any_refused_eq_false_iff, ← firstRepeated?_nil_eq_none_iff]
    cases table.rowGroups.any fun group => group.fields.isEmpty || group.limit == 0 with
    | true => simp
    | false =>
      cases firstRepeated? [] (table.series.map Series.id) with
      | none => simp [eq_comm]
      | some id => simp

theorem valid_of_check {draft search : SearchType} (h : draft.check = .ok search) :
    search.Valid := by
  obtain ⟨hValid, rfl⟩ := check_eq_ok_iff.mp h
  exact hValid

/-! ### Changes of paging -/

section Paging

variable {paging : PagingOverride}

theorem usableLimit?_of_pos {limit : UInt32} (hLimit : paging.limit = some limit)
    (hPos : 0 < limit) : paging.usableLimit? = some limit := by
  simp [PagingOverride.usableLimit?, hLimit, hPos]

/-- A limit of zero asks for nothing. -/
theorem usableLimit?_eq_none (h : ∀ limit, paging.limit = some limit → limit = 0) :
    paging.usableLimit? = none := by
  rw [PagingOverride.usableLimit?, Option.filter_eq_none_iff]
  intro limit hLimit
  simp [h limit hLimit]

theorem one_le_of_usableLimit? {limit : UInt32} (h : paging.usableLimit? = some limit) :
    1 ≤ limit := by
  have hPos : 0 < limit := by
    simpa using (Option.filter_eq_some_iff.mp h).2
  exact one_le_iff_ne_zero.mpr (UInt32.pos_iff_ne_zero.mp hPos)

theorem toNat_pageOf (offset perPage : UInt32) :
    (pageOf offset perPage).toNat = min (offset.toNat / perPage.toNat + 1) maxUnsigned32 := by
  -- the minimum fits into a word, so the page is the number that was computed
  have hSize : min (offset.toNat / perPage.toNat + 1) maxUnsigned32 < UInt32.size := by
    have hMax : maxUnsigned32 < UInt32.size := by decide
    omega
  exact UInt32.toNat_ofNat_of_lt' hSize

/-- Pages are counted from one, also where the largest page stands for all that lie behind it. -/
theorem one_le_pageOf (offset perPage : UInt32) : 1 ≤ pageOf offset perPage := by
  have hOne : (1 : UInt32).toNat ≤ maxUnsigned32 := by decide
  rw [UInt32.le_iff_toNat_le, toNat_pageOf]
  exact Nat.le_min.mpr ⟨Nat.le_add_left _ _, hOne⟩

@[simp]
theorem limit_repageMessages (list : MessageList) :
    (repageMessages paging list).limit = paging.usableLimit?.getD list.limit :=
  rfl

@[simp]
theorem offset_repageMessages (list : MessageList) :
    (repageMessages paging list).offset = paging.offset.getD list.offset :=
  rfl

theorem valid_repageMessages {list : MessageList}
    (h : (SearchDetail.messages list).Valid) :
    (SearchDetail.messages (repageMessages paging list)).Valid := by
  unfold repageMessages
  cases hLimit : paging.usableLimit? with
  | none => exact h
  | some limit => exact one_le_of_usableLimit? hLimit

@[simp]
theorem perPage_repageEvents (list : EventList) :
    (repageEvents paging list).perPage = paging.usableLimit?.or list.perPage := by
  unfold repageEvents
  cases paging.offset <;> rfl

theorem pageSize_repageEvents (list : EventList) :
    (repageEvents paging list).pageSize =
      (paging.usableLimit?.or list.perPage).getD EventList.defaultPerPage := by
  rw [EventList.pageSize, perPage_repageEvents]

theorem page_repageEvents_of_offset {offset : UInt32} (h : paging.offset = some offset)
    (list : EventList) :
    (repageEvents paging list).page =
      some (pageOf offset (repageEvents paging list).pageSize) := by
  simp only [repageEvents, h]
  rfl

section Events

variable {list : EventList} (h : (SearchDetail.events list).Valid)
include h

theorem one_le_perPage_resized {perPage : UInt32}
    (hSize : paging.usableLimit?.or list.perPage = some perPage) : 1 ≤ perPage := by
  cases hLimit : paging.usableLimit? with
  | none =>
    rw [hLimit, Option.none_or] at hSize
    exact h.2 perPage hSize
  | some limit =>
    rw [hLimit, Option.some_or] at hSize
    obtain rfl := Option.some.inj hSize
    exact one_le_of_usableLimit? hLimit

/-- The size by which an offset is divided to find its page, after a change of paging has set it. -/
theorem one_le_pageSize_repageEvents : 1 ≤ (repageEvents paging list).pageSize := by
  rw [pageSize_repageEvents]
  cases hResized : paging.usableLimit?.or list.perPage with
  | none => decide
  | some perPage => exact one_le_perPage_resized h hResized

theorem valid_repageEvents : (SearchDetail.events (repageEvents paging list)).Valid := by
  unfold repageEvents
  cases paging.offset with
  | none => exact ⟨h.1, fun perPage hSize => one_le_perPage_resized h hSize⟩
  | some offset =>
    refine ⟨fun page hPage => ?_, fun perPage hSize => one_le_perPage_resized h hSize⟩
    rw [← Option.some.inj hPage]
    exact one_le_pageOf offset _

end Events

theorem valid_repage {search : SearchType} (h : search.Valid) : (search.repage paging).Valid := by
  obtain ⟨id, name, streams, detail⟩ := search
  cases detail with
  | messages list => exact valid_repageMessages h
  | events list => exact valid_repageEvents h
  | pivot table => exact h

end Paging

/-! ### All of them -/

theorem valid_of_ofJson {value : Json} {search : SearchType} (h : ofJson value = .ok search) :
    search.Valid := by
  obtain ⟨parts, -, hChecked⟩ := bind_eq_ok.mp h
  split at hChecked
  · contradiction
  · exact valid_of_check hChecked

/-- The search types that can be made from outside. -/
inductive Constructed : SearchType → Prop
  | checked {draft search : SearchType} (h : draft.check = .ok search) : Constructed search
  | read {value : Json} {search : SearchType} (h : ofJson value = .ok search) :
      Constructed search
  | withId {search : SearchType} (id : String) (h : Constructed search) :
      Constructed (search.withId id)
  | withStreams {search : SearchType} (streams : NameSet) (h : Constructed search) :
      Constructed (search.withStreams streams)
  | repage {search : SearchType} (paging : PagingOverride) (h : Constructed search) :
      Constructed (search.repage paging)

/-- The search types made from outside are those that make sense. -/
theorem constructed_iff_valid {search : SearchType} : search.Constructed ↔ search.Valid := by
  constructor
  · intro h
    induction h with
    | checked h => exact valid_of_check h
    | read h => exact valid_of_ofJson h
    | withId id h ih => exact ih
    | withStreams streams h ih => exact ih
    | repage paging h ih => exact valid_repage ih
  · intro h
    exact .checked (check_eq_ok_iff.mpr ⟨h, rfl⟩)

end SearchType

end LogSearch
