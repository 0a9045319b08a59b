import LogSearch.Proofs.Keywords
import LogSearch.Proofs.ReadBackQueries

/-!
# Time ranges resolve to ordered windows

A time range that was let through has a start and an end at every moment since the
first of January 1970, and the start is not after the end.  Two bounds meet here:
no window is wider than a thousand leap years, and the first instant that can be
reached lies much further back than that.

`Instant.Starts` says what it means that a window starts so many seconds before it
ends: how far exactly, and that no number on the way leaves its range.
`TimeRange.Spans` says which window a range stands for, keywords by the windows
that their texts name.
-/

namespace LogSearch

namespace Instant

/-- The nanoseconds since the first of January 1970. -/
def nanos (t : Instant) : Int :=
  t.second * 1000000000 + t.nano

/-- A window of so many seconds starts at one instant and ends at another.  Its width, counted in
milliseconds, is a signed 64-bit number, and the seconds of the start can be reached. -/
structure Starts (start stop : Instant) (seconds : Nat) : Prop where
  fits : seconds * 1000 ≤ maxSigned64
  reachable : firstSecond ≤ stop.second - seconds
  exact : start.nanos = stop.nanos - seconds * 1000000000

/-- The midnight that starts the day of an instant. -/
structure IsMidnightOf (midnight t : Instant) : Prop where
  whole : midnight.nano = 0
  divides : daySeconds ∣ midnight.second
  before : midnight.second ≤ t.second
  within : t.second < midnight.second + daySeconds

theorem isMidnightOf_midnight (t : Instant) : t.midnight.IsMidnightOf t where
  whole := rfl
  divides := Int.dvd_mul_left _ _
  before := by
    simp only [midnight, daySeconds]
    omega
  within := by
    simp only [midnight, daySeconds]
    omega

/-- Seconds that can be reached are those of an instant. -/
theorem exists_at?_eq {second : Int} {nano : Nat} {stop : Instant}
    (hReachable : firstSecond ≤ second ∧ second ≤ lastSecond)
    (hProper : nano < 1000000000 ∨ (nano < 2000000000 ∧ second % 60 = 59))
    (hOrder : second < stop.second ∨ (second = stop.second ∧ nano ≤ stop.nano)) :
    ∃ start, at? second nano = some start ∧ start ≤ stop ∧
      start.nanos = second * 1000000000 + nano :=
  ⟨⟨second, nano, hReachable, hProper⟩, dif_pos ⟨hReachable, hProper⟩, hOrder, rfl⟩

/-- Going back ends at an instant as long as the seconds can be reached, and exactly so much
earlier, from within a leap second too. -/
theorem exists_back?_eq {stop : Instant} {seconds : Nat}
    (h : firstSecond ≤ stop.second - seconds) :
    ∃ start, stop.back? seconds = some start ∧ start ≤ stop ∧
      start.nanos = stop.nanos - seconds * 1000000000 := by
  have hLast := stop.reachable.2
  have hBelow := stop.proper
  unfold back?
  split
  · next hLeap =>
    -- The nanoseconds of a leap second reach into the second after it, and going back starts there.
    have hReachable : firstSecond ≤ stop.second + 1 - seconds ∧
        stop.second + 1 - seconds ≤ lastSecond := by omega
    have hProper : stop.nano - 1000000000 < 1000000000 := by omega
    have hEarlier : stop.second + 1 - seconds < stop.second ∨
        (stop.second + 1 - seconds = stop.second ∧ stop.nano - 1000000000 ≤ stop.nano) := by omega
    obtain ⟨start, hStart, hOrder, hNanos⟩ := exists_at?_eq hReachable (.inl hProper) hEarlier
    refine ⟨start, hStart, hOrder, ?_⟩
    rw [hNanos, nanos]
    omega
  · next hOrdinary =>
    have hReachable : firstSecond ≤ stop.second - seconds ∧
        stop.second - seconds ≤ lastSecond := by omega
    have hProper : stop.nano < 1000000000 ∨
        (stop.nano < 2000000000 ∧ (stop.second - seconds) % 60 = 59) := by omega
    have hEarlier : stop.second - seconds < stop.second ∨
        (stop.second - seconds = stop.second ∧ stop.nano ≤ stop.nano) := by omega
    obtain ⟨start, hStart, hOrder, hNanos⟩ := exists_at?_eq hReachable hProper hEarlier
    refine ⟨start, hStart, hOrder, ?_⟩
    rw [hNanos, nanos]
    omega

theorem IsMidnightOf.le {midnight t : Instant} (h : midnight.IsMidnightOf t) : midnight ≤ t := by
  have hWhole := h.whole
  have hBefore := h.before
  show _ < _ ∨ (_ = _ ∧ _ ≤ _)
  omega

theorem IsMidnightOf.second_nonneg {midnight t : Instant} (h : midnight.IsMidnightOf t)
    (hTime : 0 ≤ t.second) : 0 ≤ midnight.second := by
  have hDivides := h.divides
  have hWithin := h.within
  simp only [daySeconds] at hDivides hWithin
  omega

theorem second_nonneg_of_epoch_le {t : Instant} (h : epoch ≤ t) : 0 ≤ t.second := by
  have hEpoch : (0 : Int) < t.second ∨ ((0 : Int) = t.second ∧ 0 ≤ t.nano) := h
  omega

end Instant

namespace TimeRange

open Keyword

/-- The start and the end of a range at a given moment. -/
inductive Spans (now : Instant) : TimeRange → (start stop : Instant) → Prop
  | allTime : Spans now (.relative 0) .epoch now
  | relative {seconds : Nat} {start : Instant} (hPositive : 0 < seconds)
      (hStart : start.Starts now seconds) : Spans now (.relative seconds) start now
  | absolute (start stop : Instant) : Spans now (.absolute start stop) start stop
  | today {text : String} {zone : Option String} {midnight : Instant}
      (hText : Understood (normalized text) .today) (hMidnight : midnight.IsMidnightOf now) :
      Spans now (.keyword text zone) midnight now
  | yesterday {text : String} {zone : Option String} {start midnight : Instant}
      (hText : Understood (normalized text) .yesterday) (hMidnight : midnight.IsMidnightOf now)
      (hStart : start.Starts midnight 86400) : Spans now (.keyword text zone) start midnight
  | last {text : String} {zone : Option String} {seconds : Nat} {start : Instant}
      (hText : Understood (normalized text) (.last seconds)) (hStart : start.Starts now seconds) :
      Spans now (.keyword text zone) start now

theorem exists_startBefore {stop : Instant} {seconds : Nat} (hStop : 0 ≤ stop.second)
    (hWindow : seconds ≤ maxWindow) :
    ∃ start, startBefore stop seconds = .ok start ∧ start ≤ stop ∧ start.Starts stop seconds := by
  have hFits : seconds * 1000 ≤ maxSigned64 := by
    simp only [maxWindow, maxSigned64] at hWindow ⊢
    omega
  have hReachable : firstSecond ≤ stop.second - seconds := by
    simp only [Instant.firstSecond_eq, maxWindow] at hWindow ⊢
    omega
  obtain ⟨start, hStart, hOrder, hExact⟩ := Instant.exists_back?_eq hReachable
  refine ⟨start, ?_, hOrder, hFits, hReachable, hExact⟩
  rw [startBefore, hStart]

theorem exists_spans_relative {seconds : Nat} {now : Instant} (hWindow : seconds ≤ maxWindow)
    (hNow : .epoch ≤ now) :
    ∃ start stop, (relative seconds).resolve now = .ok (start, stop) ∧ start ≤ stop ∧
      (relative seconds).Spans now start stop := by
  match seconds with
  | 0 => exact ⟨.epoch, now, rfl, hNow, .allTime⟩
  | seconds + 1 =>
    obtain ⟨start, hStart, hOrder, hStarts⟩ :=
      exists_startBefore (Instant.second_nonneg_of_epoch_le hNow) hWindow
    refine ⟨start, now, ?_, hOrder, .relative (Nat.succ_pos seconds) hStarts⟩
    rw [resolve, checkWindow_eq_ok_iff.mpr ⟨rfl, hWindow⟩]
    · show (do return (← startBefore now (seconds + 1), now) : Attempt _) = _
      rw [hStart]
      rfl
    · exact Nat.succ_ne_zero seconds

theorem exists_spans_keyword {text : String} {zone : Option String} {window : Keyword}
    {now : Instant} (hRead : read text = .ok window) (hNow : 0 ≤ now.second) :
    ∃ start stop, (keyword text zone).resolve now = .ok (start, stop) ∧ start ≤ stop ∧
      (keyword text zone).Spans now start stop := by
  have hText := read_eq_ok_iff.mp hRead
  have hMidnight := now.isMidnightOf_midnight
  cases window with
  | today =>
    refine ⟨now.midnight, now, ?_, hMidnight.le, .today hText hMidnight⟩
    rw [resolve, hRead]
    rfl
  | yesterday =>
    obtain ⟨start, hStart, hOrder, hStarts⟩ :=
      exists_startBefore (hMidnight.second_nonneg hNow) (by decide : 86400 ≤ maxWindow)
    refine ⟨start, now.midnight, ?_, hOrder, .yesterday hText hMidnight hStarts⟩
    rw [resolve, hRead]
    show (do return (← startBefore now.midnight 86400, now.midnight) : Attempt _) = _
    rw [hStart]
    rfl
  | last seconds =>
    obtain ⟨start, hStart, hOrder, hStarts⟩ := exists_startBefore hNow hText.le_maxWindow
    refine ⟨start, now, ?_, hOrder, .last hText hStarts⟩
    rw [resolve, hRead]
    show (do return (← startBefore now seconds, now) : Attempt _) = _
    rw [hStart]
    rfl

/-- A time range that was let through resolves at every moment since the first of January 1970, to
the window that it stands for, which does not start after it ends. -/
theorem resolve_validated {range : TimeRange} {now : Instant} (hRange : range.Constructed)
    (hNow : .epoch ≤ now) :
    ∃ start stop, range.resolve now = .ok (start, stop) ∧ start ≤ stop ∧
      range.Spans now start stop := by
  have hChecked := hRange.checked
  cases range with
  | relative seconds => exact exists_spans_relative hChecked hNow
  | absolute start stop => exact ⟨start, stop, rfl, hChecked, .absolute start stop⟩
  | keyword text zone =>
    obtain ⟨window, hRead, -⟩ := bind_eq_ok.mp hChecked
    exact exists_spans_keyword (mapError_eq_ok.mp hRead) (Instant.second_nonneg_of_epoch_le hNow)

/-- A number of weeks, from within the leap second at the end of the year 2016. -/
theorem resolve_validated_of_weeks :
    let now : Instant := ⟨1483228799, 1500000000, by decide, by decide⟩
    let range : TimeRange := .keyword " Last 2 Weeks" (some "UTC")
    range.Constructed ∧ .epoch ≤ now ∧
      ∃ start stop, range.resolve now = .ok (start, stop) ∧ start ≤ stop ∧
        range.Spans now start stop := by
  intro now range
  have hRange : keyword? " Last 2 Weeks" (some "UTC") = .ok range := rfl
  have hNow : .epoch ≤ now := by decide
  exact ⟨.keyword hRange, hNow, resolve_validated (.keyword hRange) hNow⟩

end TimeRange

end LogSearch
