import LogSearch.Proofs.Overrides
import LogSearch.Proofs.Refinement
import LogSearch.Proofs.SearchTypes

/-!
# Which part of a result is asked for

A message list is asked for by offset and limit, an event list by the place of its
page and the size of its pages.  All four are words of 32 bits, and the requests
are described here in the numbers that the words stand for.

The limit of a message list is cut off at the end of the result window, but its
offset is passed on as it is, and their sum is compared with the window only up to
the largest word.  So a request stays inside the window under a condition, which
`Handler.messages_within_window_iff` gives exactly.

A change of paging sets the limit of a message list and the page size of an event
list.  The page size counts only where there is a page, so the limit is lost on an
event list that has no page and gets none by an offset.  An offset becomes the page
that contains it, and going back from the page to a place in the result gives the
last multiple of the page size that does not lie above the offset: `IsPageStart`.
-/

namespace LogSearch

/-! ### The result window -/

namespace MessageList

variable {list : MessageList} {window : UInt32}

theorem toNat_requestSize :
    (list.requestSize window).toNat =
      if window.toNat < min (list.offset.toNat + list.limit.toNat) maxUnsigned32 then
        window.toNat - list.offset.toNat
      else list.limit.toNat := by
  unfold requestSize
  split
  · have hFits : window.toNat - list.offset.toNat < UInt32.size :=
      Nat.lt_of_le_of_lt (Nat.sub_le _ _) window.toNat_lt
    exact UInt32.toNat_ofNat_of_lt' hFits
  · rfl

/-- Below the largest word, the window is a bound that the limit is cut off at. -/
theorem toNat_requestSize_of_lt (h : window.toNat < maxUnsigned32) :
    (list.requestSize window).toNat =
      min list.limit.toNat (window.toNat - list.offset.toNat) := by
  rw [toNat_requestSize]
  split <;> omega

theorem requestSize_le_limit (list : MessageList) (window : UInt32) :
    list.requestSize window ≤ list.limit := by
  rw [UInt32.le_iff_toNat_le, toNat_requestSize]
  split <;> omega

/-- The messages asked for end inside the window exactly if they do so without being cut off, or if
they are cut off behind an offset that lies inside the window. -/
theorem offset_add_requestSize_le_iff :
    list.offset.toNat + (list.requestSize window).toNat ≤ window.toNat ↔
      list.offset.toNat + list.limit.toNat ≤ window.toNat ∨
        list.offset.toNat ≤ window.toNat ∧ window.toNat < maxUnsigned32 := by
  have hOffset : list.offset.toNat ≤ maxUnsigned32 := Nat.le_of_lt_succ list.offset.toNat_lt
  have hWindow : window.toNat ≤ maxUnsigned32 := Nat.le_of_lt_succ window.toNat_lt
  rw [toNat_requestSize]
  split <;> omega

end MessageList

namespace Handler

/-- A request for messages stays inside the result window exactly if offset and limit do, or if the
offset does and the window is not the largest one, for which no limit is cut off. -/
theorem messages_within_window_iff (context : QueryContext) (search : SearchType)
    (list : MessageList) :
    let window := context.layout.maxResultWindow
    ∃ body size,
      Handler.request ⟨.messages⟩ context { search with detail := .messages list } = .ok body ∧
      body.start = some list.offset ∧ body.size = some size ∧
      (list.offset.toNat + size.toNat ≤ window.toNat ↔
        list.offset.toNat + list.limit.toNat ≤ window.toNat ∨
          list.offset.toNat ≤ window.toNat ∧ window.toNat < maxUnsigned32) := by
  intro window
  refine ⟨_, list.requestSize window, request_of_kind rfl context, rfl, rfl, ?_⟩
  exact MessageList.offset_add_requestSize_le_iff

/-- The window is no bound on requests: neither for an offset behind it, nor if it is the largest
window, where the sum of offset and limit goes unnoticed. -/
theorem messages_beyond_window :
    let query : Query :=
      { id := "q", timeRange := .relative 0, text := .empty, filter := none, searchFilters := []
        searchTypes := [], override := none }
    let exceeds (window offset : UInt32) : Prop := ∃ context body start size,
      QueryContext.ofQuery { maxResultWindow := window } .epoch query = .ok context ∧
      Handler.request ⟨.messages⟩ context
        { id := "list", detail := .messages { offset, limit := 150 } } = .ok body ∧
      body.start = some start ∧ body.size = some size ∧
      window.toNat < start.toNat + size.toNat
    exceeds 10000 20000 ∧ exceeds 4294967295 4294967290 := by
  intro query exceeds
  exact ⟨⟨_, _, _, _, rfl, rfl, rfl, rfl, by decide⟩, ⟨_, _, _, _, rfl, rfl, rfl, rfl, by decide⟩⟩

end Handler

/-! ### The limit of a change of paging -/

namespace EventList

variable {context : QueryContext} {search : SearchType} {list : EventList} {body : SearchBody}

/-- The place where a page starts is computed without a word running over. -/
theorem pageStart_eq_ok_iff {page perPage start : UInt32} {id : String} :
    pageStart page perPage id = .ok start ↔
      start.toNat = (page.toNat - 1) * perPage.toNat := by
  simp only [pageStart]
  split
  · next hReach =>
    have hFits : (page.toNat - 1) * perPage.toNat < UInt32.size := Nat.lt_succ_of_le hReach
    rw [Except.ok.injEq, ← UInt32.toNat_inj, eq_comm]
    rw [Nat.toUInt32_eq, UInt32.toNat_ofNat_of_lt' hFits]
  · next hBeyond =>
    have hStart : start.toNat ≤ maxUnsigned32 := Nat.le_of_lt_succ start.toNat_lt
    simp only [reduceCtorEq, false_iff]
    omega

/-- A list of events is asked for up to the size of its pages, or up to a fixed size if it has no
page. -/
theorem size_of_request (h : list.request context search = .ok body) :
    body.size = some (if list.page = none then unpagedSize else list.pageSize) := by
  unfold request at h
  cases hPage : list.page with
  | none =>
    rw [hPage] at h
    rw [← Except.ok.inj h]
    rfl
  | some page =>
    simp only [hPage, bind_eq_ok, pure_eq_ok] at h
    obtain ⟨start, -, rfl⟩ := h
    rfl

/-- A list of events with a page has a request as soon as the place of its first event is a word,
which is where the request starts. -/
theorem request_of_page {page start : UInt32} (hPage : list.page = some page)
    (hStart : start.toNat = (page.toNat - 1) * list.pageSize.toNat) (context : QueryContext)
    (search : SearchType) :
    ∃ body, list.request context search = .ok body ∧ body.start = some start := by
  simp only [request, hPage, pageStart_eq_ok_iff.mpr hStart]
  exact ⟨_, rfl, rfl⟩

end EventList

namespace SearchType

variable {paging : PagingOverride}

/-- A list of events has no page if it had none and is not given one by an offset. -/
theorem page_repageEvents_eq_none_iff {list : EventList} :
    (repageEvents paging list).page = none ↔ list.page = none ∧ paging.offset = none := by
  unfold repageEvents
  cases paging.offset <;> simp

end SearchType

namespace Handler

/-- A change of paging leaves a search type to the handler that it had. -/
theorem request_repage (context : QueryContext) (search : SearchType) (paging : PagingOverride) :
    Handler.request ⟨search.kind⟩ context (search.repage paging) =
      (search.repage paging).request context :=
  request_of_kind (SearchType.kind_repage paging search).symm context

/-- A request asks for no more than a change of paging allows, except where the change gives a limit
alone to a list of events without a page: the limit then becomes the size of pages that the request
does not look at. -/
theorem repaged_within_limit_iff {context : QueryContext} {search : SearchType}
    {paging : PagingOverride} {limit : UInt32} {body : SearchBody}
    (hLimit : paging.limit = some limit) (hPos : 0 < limit)
    (hRequest : Handler.request ⟨search.kind⟩ context (search.repage paging) = .ok body) :
    (∃ size, body.size = some size ∧ size ≤ limit) ↔
      ∀ list, search.detail = .events list → list.page = none → paging.offset = none →
        EventList.unpagedSize ≤ limit := by
  have hUsable := SearchType.usableLimit?_of_pos hLimit hPos
  rw [request_repage] at hRequest
  obtain ⟨id, name, streams, detail⟩ := search
  cases detail with
  | messages list =>
    obtain rfl := Except.ok.inj hRequest
    have hSize := (SearchType.repageMessages paging list).requestSize_le_limit
      context.layout.maxResultWindow
    rw [SearchType.limit_repageMessages, hUsable, Option.getD_some] at hSize
    exact iff_of_true ⟨_, rfl, hSize⟩ fun other hOther => nomatch hOther
  | events list =>
    have hSize := EventList.size_of_request hRequest
    rw [SearchType.pageSize_repageEvents, hUsable, Option.some_or, Option.getD_some] at hSize
    simp only [hSize, Option.some.injEq, exists_eq_left', SearchDetail.events.injEq, forall_eq',
      SearchType.page_repageEvents_eq_none_iff]
    by_cases hUnpaged : list.page = none ∧ paging.offset = none
    · simp [hUnpaged]
    · rw [if_neg hUnpaged]
      exact iff_of_true (UInt32.le_refl limit) fun hPage hOffset =>
        absurd ⟨hPage, hOffset⟩ hUnpaged
  | pivot table =>
    obtain rfl := Except.ok.inj hRequest
    exact iff_of_true ⟨0, rfl, UInt32.zero_le⟩ fun other hOther => nomatch hOther

/-- A limit alone, for a list of events that shows its third page in the usual size. -/
theorem repaged_within_limit_of_page :
    let search : SearchType := { id := "alerts", detail := .events { page := some 3 } }
    let paging : PagingOverride := { limit := some 20 }
    let context : QueryContext := ⟨{}, ∅, {}, .epoch, .epoch⟩
    paging.limit = some 20 ∧ (0 : UInt32) < 20 ∧
      ∃ body, Handler.request ⟨search.kind⟩ context (search.repage paging) = .ok body ∧
        ∃ size, body.size = some size ∧ size ≤ 20 := by
  intro search paging context
  obtain ⟨body, hBody⟩ : ∃ body,
      Handler.request ⟨search.kind⟩ context (search.repage paging) = .ok body := ⟨_, rfl⟩
  refine ⟨rfl, by decide, body, hBody, (repaged_within_limit_iff rfl (by decide) hBody).mpr ?_⟩
  intro list hList hUnpaged
  obtain rfl := SearchDetail.events.inj hList
  contradiction

/-- A limit alone is lost on a list of events without a page. -/
theorem repaged_beyond_limit :
    let query : Query :=
      { id := "q", timeRange := .relative 0, text := .empty, filter := none, searchFilters := []
        searchTypes := [], override := none }
    let search : SearchType := { id := "alerts", detail := .events {} }
    let paging : PagingOverride := { limit := some 20 }
    ∃ context body size, QueryContext.ofQuery {} .epoch query = .ok context ∧
      Handler.request ⟨search.kind⟩ context (search.repage paging) = .ok body ∧
      body.size = some size ∧ 20 < size := by
  intro query search paging
  exact ⟨_, _, 10000, rfl, rfl, rfl, by decide⟩

end Handler

/-! ### The page of an offset -/

/-- The page that an offset lies on starts at the last multiple of the page size that is not above
the offset. -/
structure IsPageStart (perPage offset start : Nat) : Prop where
  /-- Pages start at multiples of their size. -/
  multiple : perPage ∣ start
  /-- The page does not start behind the offset. -/
  le : start ≤ offset
  /-- Every later page does. -/
  last : ∀ other, perPage ∣ other → other ≤ offset → other ≤ start
  /-- The offset lies on the page. -/
  lt_next : offset < start + perPage

theorem isPageStart_div_mul {perPage offset : Nat} (h : 0 < perPage) :
    IsPageStart perPage offset (offset / perPage * perPage) where
  multiple := Nat.dvd_mul_left _ _
  le := Nat.div_mul_le_self _ _
  last := by
    rintro other ⟨pages, rfl⟩ hOther
    rw [Nat.mul_comm] at hOther ⊢
    exact Nat.mul_le_mul_right _ ((Nat.le_div_iff_mul_le h).mpr hOther)
  lt_next := Nat.lt_div_mul_add h

namespace SearchType

variable {paging : PagingOverride} {offset perPage : UInt32}

/-- The place where the page of an offset starts is not behind the offset, so it is a word. -/
theorem exists_start_of_pageOf (offset perPage : UInt32) :
    ∃ start : UInt32, start.toNat = ((pageOf offset perPage).toNat - 1) * perPage.toNat := by
  have hPages : (pageOf offset perPage).toNat - 1 ≤ offset.toNat / perPage.toNat := by
    rw [toNat_pageOf]
    exact Nat.sub_le_iff_le_add.mpr (Nat.min_le_left _ _)
  have hStart : ((pageOf offset perPage).toNat - 1) * perPage.toNat < UInt32.size :=
    calc ((pageOf offset perPage).toNat - 1) * perPage.toNat
        ≤ offset.toNat / perPage.toNat * perPage.toNat := Nat.mul_le_mul_right _ hPages
      _ ≤ offset.toNat := Nat.div_mul_le_self _ _
      _ < UInt32.size := offset.toNat_lt
  exact ⟨_, UInt32.toNat_ofNat_of_lt' hStart⟩

/-- Only the last offset of all lies behind the last page, and only with pages of one item. -/
theorem div_lt_maxUnsigned32 (hSize : 1 ≤ perPage)
    (hInside : ¬ (offset.toNat = maxUnsigned32 ∧ perPage = 1)) :
    offset.toNat / perPage.toNat < maxUnsigned32 := by
  have hOffset : offset.toNat ≤ maxUnsigned32 := Nat.le_of_lt_succ offset.toNat_lt
  have hPos : 1 ≤ perPage.toNat := UInt32.le_iff_toNat_le.mp hSize
  by_cases hOne : perPage = 1
  · have hBelow : offset.toNat ≠ maxUnsigned32 := fun h => hInside ⟨h, hOne⟩
    have hUnit : perPage.toNat = 1 := by rw [hOne]; rfl
    -- the quotient is the offset itself
    rw [hUnit, Nat.div_one]
    omega
  · have hTwo : 2 ≤ perPage.toNat := by
      have hUnit : perPage.toNat ≠ 1 := fun h => hOne (UInt32.toNat_inj.mp h)
      omega
    -- there are at most half as many pages as there are offsets
    calc offset.toNat / perPage.toNat
        ≤ maxUnsigned32 / 2 := Nat.div_le_div hOffset hTwo (by decide)
      _ < maxUnsigned32 := by decide

theorem isPageStart_pageOf (hSize : 1 ≤ perPage)
    (hInside : ¬ (offset.toNat = maxUnsigned32 ∧ perPage = 1)) :
    IsPageStart perPage.toNat offset.toNat
      (((pageOf offset perPage).toNat - 1) * perPage.toNat) := by
  have hPage : (pageOf offset perPage).toNat = offset.toNat / perPage.toNat + 1 := by
    rw [toNat_pageOf]
    exact Nat.min_eq_left (div_lt_maxUnsigned32 hSize hInside)
  rw [hPage, Nat.add_sub_cancel]
  exact isPageStart_div_mul (UInt32.le_iff_toNat_le.mp hSize)

/-- The last offset of all lies behind the last page if the pages have one item each. -/
theorem toNat_pageOf_of_last (hOffset : offset.toNat = maxUnsigned32) (hSize : perPage = 1) :
    (pageOf offset perPage).toNat = maxUnsigned32 := by
  rw [toNat_pageOf, hOffset, hSize]
  decide

/-- An offset always has a page that a list of events can be asked for from. -/
theorem request_repageEvents (hOffset : paging.offset = some offset) {list : EventList}
    (hSize : (repageEvents paging list).pageSize = perPage) (context : QueryContext)
    (search : SearchType) :
    ∃ body start, (repageEvents paging list).request context search = .ok body ∧
      body.start = some start ∧ body.size = some perPage ∧
      start.toNat = ((pageOf offset perPage).toNat - 1) * perPage.toNat := by
  have hPage := page_repageEvents_of_offset hOffset list
  rw [hSize] at hPage
  obtain ⟨start, hStart⟩ := exists_start_of_pageOf offset perPage
  have hPlace : start.toNat =
      ((pageOf offset perPage).toNat - 1) * (repageEvents paging list).pageSize.toNat := by
    rw [hSize, hStart]
  obtain ⟨body, hBody, hFrom⟩ :=
    EventList.request_of_page hPage hPlace context search
  have hCount := EventList.size_of_request hBody
  rw [hPage, if_neg (Option.some_ne_none _), hSize] at hCount
  exact ⟨body, start, hBody, hFrom, hCount, hStart⟩

end SearchType

namespace Handler

/-- A change of paging that sets an offset makes a list of events start at the page of the offset,
and a list of messages at the offset itself.  The size of the pages is the limit of the change, or
else what it was before.  Only the last offset of all, with pages of one event, lies on no page;
the last page stands in for it.  The messages end at the window unless that is the largest one. -/
theorem repaged_offset_exact {context : QueryContext} {search : SearchType}
    {paging : PagingOverride} {offset : UInt32} (hValid : search.Valid)
    (hOffset : paging.offset = some offset) :
    (∀ list, search.detail = .events list →
      let perPage := (paging.usableLimit?.or list.perPage).getD 10
      ∃ body start page,
        Handler.request ⟨.events⟩ context (search.repage paging) = .ok body ∧
        body.start = some start ∧ body.size = some perPage ∧
        (search.repage paging).page? = some ⟨page, perPage⟩ ∧
        (page.toNat - 1) * perPage.toNat = start.toNat ∧
        if offset.toNat = maxUnsigned32 ∧ perPage = 1 then
          page.toNat = maxUnsigned32 ∧ start.toNat = offset.toNat - 1
        else IsPageStart perPage.toNat offset.toNat start.toNat) ∧
    ∀ list, search.detail = .messages list →
      context.layout.maxResultWindow.toNat < maxUnsigned32 →
      ∃ body size,
        Handler.request ⟨.messages⟩ context (search.repage paging) = .ok body ∧
        body.start = some offset ∧ body.size = some size ∧
        size.toNat = min (paging.usableLimit?.getD list.limit).toNat
          (context.layout.maxResultWindow.toNat - offset.toNat) := by
  obtain ⟨id, name, streams, detail⟩ := search
  refine ⟨fun list hList => ?_, fun list hList hWindow => ?_⟩
  · obtain rfl : detail = .events list := hList
    intro perPage
    have hPerPage : (SearchType.repageEvents paging list).pageSize = perPage :=
      SearchType.pageSize_repageEvents list
    have hSize : 1 ≤ perPage := hPerPage ▸ SearchType.one_le_pageSize_repageEvents hValid
    have hPage := SearchType.page_repageEvents_of_offset hOffset list
    obtain ⟨body, start, hBody, hFrom, hCount, hStart⟩ := SearchType.request_repageEvents hOffset
      hPerPage context (SearchType.repage paging ⟨id, name, streams, .events list⟩)
    refine ⟨body, start, SearchType.pageOf offset perPage,
      (request_repage context ⟨id, name, streams, .events list⟩ paging).trans hBody, hFrom, hCount,
      ?_, hStart.symm, ?_⟩
    · simp only [SearchType.page?, SearchType.repage, hPage, hPerPage, Option.map_some]
    · split
      · next hLast =>
        have hPageNat := SearchType.toNat_pageOf_of_last hLast.1 hLast.2
        refine ⟨hPageNat, ?_⟩
        rw [hStart, hPageNat, hLast.1, hLast.2]
        exact Nat.mul_one _
      · next hInside =>
        rw [hStart]
        exact SearchType.isPageStart_pageOf hSize hInside
  · obtain rfl : detail = .messages list := hList
    have hPlace : (SearchType.repageMessages paging list).offset = offset := by
      rw [SearchType.offset_repageMessages, hOffset, Option.getD_some]
    refine ⟨_, _, request_repage context ⟨id, name, streams, .messages list⟩ paging,
      congrArg some hPlace, rfl, ?_⟩
    rw [MessageList.toNat_requestSize_of_lt hWindow, hPlace, SearchType.limit_repageMessages]

/-- An offset inside a page with a limit of zero, which asks for nothing, and the last offset of all
with pages of one event. -/
theorem repaged_offset_exact_of_events :
    let search : SearchType := { id := "alerts", detail := .events { perPage := some 20 } }
    let context : QueryContext := ⟨{}, ∅, {}, .epoch, .epoch⟩
    let starts (paging : PagingOverride) (start perPage : UInt32) : Prop := ∃ body,
      Handler.request ⟨.events⟩ context (search.repage paging) = .ok body ∧
        body.start = some start ∧ body.size = some perPage
    search.Valid ∧ starts { offset := some 45, limit := some 0 } 40 20 ∧
      starts { offset := some 4294967295, limit := some 1 } 4294967294 1 := by
  intro search context starts
  have hChecked : search.check = .ok search := rfl
  have hValid := SearchType.valid_of_check hChecked
  refine ⟨hValid, ?_, ?_⟩
  · obtain ⟨body, start, page, hBody, hFrom, hCount, -, -, hPage⟩ :=
      (@repaged_offset_exact context search { offset := some 45, limit := some 0 } _ hValid
        rfl).1 _ rfl
    have hStart : IsPageStart 20 45 start.toNat := hPage
    have hForty : start.toNat = 40 := by
      have hMultiple := hStart.multiple
      have hLe := hStart.le
      have hNext := hStart.lt_next
      omega
    obtain rfl : start = 40 := UInt32.toNat_inj.mp hForty
    exact ⟨body, hBody, hFrom, hCount⟩
  · obtain ⟨body, start, page, hBody, hFrom, hCount, -, -, -, hLast⟩ :=
      (@repaged_offset_exact context search { offset := some 4294967295, limit := some 1 } _
        hValid rfl).1 _ rfl
    obtain rfl : start = 4294967294 := UInt32.toNat_inj.mp hLast
    exact ⟨body, hBody, hFrom, hCount⟩

end Handler

end LogSearch
