import LogSearch.Time.Calendar

/-!
# Instants

An instant is a whole second counted from the first of January 1970 and the
nanoseconds into it.  A thousand million nanoseconds and more stand for the leap
second that follows the given second, so instants are compared by their seconds
first.  Only the instants of the years -262143 to 262142 can be reached.
-/

namespace LogSearch

/-- The seconds of a day. -/
def daySeconds : Int := 86400

/-- The first second that can be reached. -/
def firstSecond : Int := CivilDate.toDays ⟨-262143, 1, 1⟩ * daySeconds

/-- The last second that can be reached. -/
def lastSecond : Int := CivilDate.toDays ⟨262142, 12, 31⟩ * daySeconds + (daySeconds - 1)

/-- A point in time. -/
structure Instant where
  /-- The whole second, counted from the first of January 1970. -/
  second : Int
  /-- The nanoseconds into the second; from `10 ^ 9` on, into the leap second after it. -/
  nano : Nat
  /-- The second can be reached. -/
  reachable : firstSecond ≤ second ∧ second ≤ lastSecond
  /-- A leap second only follows the last second of a minute. -/
  proper : nano < 1000000000 ∨ (nano < 2000000000 ∧ second % 60 = 59)
  deriving DecidableEq

namespace Instant

/-- The instant so many nanoseconds into a second, if there is one. -/
def at? (second : Int) (nano : Nat) : Option Instant :=
  if h : (firstSecond ≤ second ∧ second ≤ lastSecond) ∧
      (nano < 1000000000 ∨ (nano < 2000000000 ∧ second % 60 = 59)) then
    some ⟨second, nano, h.1, h.2⟩
  else none

/-- The first of January 1970. -/
def epoch : Instant := ⟨0, 0, by decide, by decide⟩

instance : Inhabited Instant := ⟨epoch⟩

/-- The first instant that can be reached. -/
def first : Instant := ⟨firstSecond, 0, by decide, by decide⟩

/-- The last instant that can be reached. -/
def last : Instant := ⟨lastSecond, 999999999, by decide, by decide⟩

/-- One instant is not after another. -/
def Le (a b : Instant) : Prop :=
  a.second < b.second ∨ (a.second = b.second ∧ a.nano ≤ b.nano)

instance : LE Instant := ⟨Le⟩

instance (a b : Instant) : Decidable (a ≤ b) :=
  inferInstanceAs (Decidable (a.second < b.second ∨ (a.second = b.second ∧ a.nano ≤ b.nano)))

theorem firstSecond_eq : firstSecond = -8334601228800 := by decide

theorem lastSecond_eq : lastSecond = 8210266876799 := by decide

/-- The midnight that starts the day of an instant. -/
def midnight (t : Instant) : Instant where
  second := t.second / daySeconds * daySeconds
  nano := 0
  reachable := by
    have hReachable := t.reachable
    simp only [firstSecond_eq, lastSecond_eq, daySeconds] at hReachable ⊢
    omega
  proper := Or.inl (by decide)

/-- The instant a number of seconds earlier, if it can be reached.

Going back from within a leap second lands in the seconds before it as if the
leap second were the second it delays.
-/
def back? (t : Instant) (seconds : Nat) : Option Instant :=
  if 1000000000 ≤ t.nano ∧ 0 < seconds then
    at? (t.second + 1 - seconds) (t.nano - 1000000000)
  else at? (t.second - seconds) t.nano

end Instant

end LogSearch
