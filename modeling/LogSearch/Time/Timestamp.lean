import LogSearch.Time.Instant
import LogSearch.Text.Blank

/-!
# Timestamps

Instants are written as date, time and fraction in universal time.  The fraction
has none, three, six or nine digits, the fewest that lose nothing, except in
request bodies, where it always has three.  Years beyond four digits and before
year zero carry a sign.

Reading is more generous: the date and time may be parted by the letter of
either case or by a space, spaces may precede any number, the year may carry a
sign, fraction digits beyond the ninth are skipped, and the offset may be a
letter, `UTC`, or signed hours and minutes with colons and spaces between.  An
offset is always required.
-/

namespace LogSearch

namespace Instant

/-! ### Writing -/

/-- A number with at least the given count of digits. -/
def padded (width n : Nat) : List Char :=
  let digits := Nat.toDigits 10 n
  List.replicate (width - digits.length) '0' ++ digits

/-- The text of a year. -/
def yearText (year : Int) : List Char :=
  if 0 ≤ year ∧ year ≤ 9999 then padded 4 year.toNat
  else (if year < 0 then '-' else '+') :: padded 4 year.natAbs

/-- The fraction with the fewest digits that lose nothing. -/
def exactFraction (nano : Nat) : List Char :=
  if nano = 0 then []
  else if nano % 1000000 = 0 then '.' :: padded 3 (nano / 1000000)
  else if nano % 1000 = 0 then '.' :: padded 6 (nano / 1000)
  else '.' :: padded 9 nano

/-- The fraction cut off after the milliseconds. -/
def millisecondFraction (nano : Nat) : List Char :=
  '.' :: padded 3 (nano / 1000000)

/-- The day that an instant falls on. -/
def date (t : Instant) : CivilDate := CivilDate.ofDays (t.second / daySeconds)

/-- The seconds from midnight to an instant. -/
def timeOfDay (t : Instant) : Nat := (t.second % daySeconds).toNat

/-- The second of the minute that is shown for an instant, 60 in a leap second. -/
def shownSecond (t : Instant) : Nat :=
  if 1000000000 ≤ t.nano then t.timeOfDay % 60 + 1 else t.timeOfDay % 60

/-- The nanoseconds into the second that is shown for an instant. -/
def shownNano (t : Instant) : Nat :=
  if 1000000000 ≤ t.nano then t.nano - 1000000000 else t.nano

/-- The text of a date. -/
def dateText (date : CivilDate) : List Char :=
  yearText date.year ++ '-' :: (padded 2 date.month ++ '-' :: padded 2 date.day)

/-- The text of a time of day. -/
def clockText (hour minute second : Nat) : List Char :=
  padded 2 hour ++ ':' :: (padded 2 minute ++ ':' :: padded 2 second)

/-- Date and time of an instant, with a given way to write the fraction and a given offset. -/
def textWith (fraction : Nat → List Char) (offset : List Char) (t : Instant) : String :=
  String.ofList <|
    dateText t.date ++ 'T' :: (clockText (t.timeOfDay / 3600) (t.timeOfDay / 60 % 60) t.shownSecond
      ++ (fraction t.shownNano ++ offset))

/-- The timestamp that declarations and results carry. -/
def timestamp : Instant → String := textWith exactFraction ['Z']

/-- The timestamp that messages show. -/
def messageText : Instant → String := textWith exactFraction ['+', '0', '0', ':', '0', '0']

/-- The timestamp that request bodies carry. -/
def requestText : Instant → String := textWith millisecondFraction ['Z']

/-! ### Reading -/

/-- Read at least one and at most `most` digits. -/
def readNumber? (most : Nat) (cs : List Char) : Option (Nat × List Char) :=
  let digits := (cs.take most).takeWhile Char.isDigit
  if digits.isEmpty then none
  else some (digits.foldl (fun total c => total * 10 + (c.toNat - 48)) 0, cs.drop digits.length)

/-- Read a number after optional spaces. -/
def readPart? (most : Nat) (cs : List Char) : Option (Nat × List Char) :=
  readNumber? most (Text.trimStart cs)

/-- Read one fixed character after optional spaces. -/
def readMark? (mark : Char) (cs : List Char) : Option (List Char) :=
  match Text.trimStart cs with
  | c :: rest => if c = mark then some rest else none
  | [] => none

/-- Read a year: four digits at most, or a sign and any number of digits. -/
def readYear? (cs : List Char) : Option (Int × List Char) :=
  match Text.trimStart cs with
  | '-' :: rest => (readNumber? rest.length rest).map fun (n, rest) => (-(n : Int), rest)
  | '+' :: rest => (readNumber? rest.length rest).map fun (n, rest) => ((n : Int), rest)
  | cs => (readNumber? 4 cs).map fun (n, rest) => ((n : Int), rest)

/-- Read a fraction of a second, in nanoseconds. -/
def readFraction? : List Char → Option (Nat × List Char)
  | '.' :: rest => do
    let (n, after) ← readNumber? 9 rest
    let places := rest.length - after.length
    return (n * Nat.pow 10 (9 - places), after.dropWhile Char.isDigit)
  | cs => some (0, cs)

/-- Read two digits. -/
def readPair? : List Char → Option (Nat × List Char)
  | a :: b :: rest =>
    if a.isDigit && b.isDigit then some ((a.toNat - 48) * 10 + (b.toNat - 48), rest) else none
  | _ => none

/-- Read hours and minutes of an offset, as seconds. -/
def readOffsetSize? (cs : List Char) : Option (Int × List Char) := do
  let (hours, cs) ← readPair? cs
  let (minutes, cs) ← readPair? (cs.dropWhile fun c => c = ':' || Text.isBlank c)
  if 60 ≤ minutes then none
  else return (hours * 3600 + minutes * 60, cs)

/-- Read an offset from universal time, in seconds. -/
def readOffset? (cs : List Char) : Option (Int × List Char) :=
  if (cs.take 3).map Char.toUpper = ['U', 'T', 'C'] then some (0, cs.drop 3)
  else match cs with
    | c :: rest =>
      if c = 'Z' ∨ c = 'z' then some (0, rest)
      else if c = '+' then readOffsetSize? rest
      else if c = '-' ∨ c = '\u2212' then
        (readOffsetSize? rest).map fun (seconds, rest) => (-seconds, rest)
      else none
    | [] => none

/-- Whether a date is within the years that can be reached. -/
def isReachableDate (date : CivilDate) : Bool :=
  date.isValid && -262143 ≤ date.year && date.year ≤ 262142

/-- Read a date. -/
def readDate? (cs : List Char) : Option (CivilDate × List Char) := do
  let (year, cs) ← readYear? cs
  let (month, cs) ← readPart? 2 (← readMark? '-' cs)
  let (day, cs) ← readPart? 2 (← readMark? '-' cs)
  return (⟨year, month, day⟩, cs)

/-- Read what parts the date and the time. -/
def readParting? : List Char → Option (List Char)
  | [] => none
  | c :: rest => if c = 'T' ∨ c = 't' ∨ c = ' ' then some rest else none

/-- Read the hour, the minute and the second of a day. -/
def readClock? (cs : List Char) : Option (Nat × Nat × Nat × List Char) := do
  let (hour, cs) ← readPart? 2 cs
  let (minute, cs) ← readPart? 2 (← readMark? ':' cs)
  let (second, cs) ← readPart? 2 (← readMark? ':' cs)
  return (hour, minute, second, cs)

/-- The instant of a date and a time in a zone of the given offset.  Second 60 is a leap second. -/
def ofParts? (date : CivilDate) (hour minute second nano : Nat) (offset : Int) : Option Instant :=
  if isReachableDate date ∧ hour < 24 ∧ minute < 60 ∧ second ≤ 60 ∧ offset.natAbs < daySeconds then
    let plain := if second = 60 then 59 else second
    let localSecond := date.toDays * daySeconds + ((hour * 60 + minute) * 60 + plain : Nat)
    at? (localSecond - offset) (if second = 60 then nano + 1000000000 else nano)
  else none

/-- The instant that a text denotes, if it is a timestamp. -/
def read? (text : String) : Option Instant := do
  let (date, cs) ← readDate? text.toList
  let (hour, minute, second, cs) ← readClock? (← readParting? cs)
  let (nano, cs) ← readFraction? cs
  let (offset, cs) ← readOffset? (Text.trimStart cs)
  if (Text.trimStart cs).isEmpty then ofParts? date hour minute second nano offset else none

end Instant

end LogSearch
