import LogSearch.Text.Emoji
import LogSearch.Text.Ligature

/-!
# Display width

How many columns a line of text takes on a terminal.  That is the sum of the
columns of its characters, except where characters are drawn as one: emoji with a
selector, a modifier or joined to others, and the ligatures of some scripts.

A line is read from the right.  What a character adds to the width depends on
the characters behind it only through a `Context`, which tells what of a sequence
has been read so far.
-/

namespace LogSearch

namespace Text

/-- The beginning of a sequence, as read from the right. -/
inductive Follower
  /-- Nothing that a character in front could join. -/
  | plain
  /-- An emoji, or a sequence shown as one. -/
  | emoji
  /-- A modifier of the skin colour. -/
  | modifier
  /-- One regional indicator. -/
  | indicator
  /-- Two or more regional indicators. -/
  | indicators
  /-- A joiner in front of an emoji. -/
  | joined
  /-- A keycap in front of such a joiner. -/
  | joinedKeycap
  /-- One regional indicator in front of such a joiner. -/
  | joinedIndicator
  /-- An even number of regional indicators in front of such a joiner. -/
  | joinedEven
  /-- An odd number of regional indicators, three or more, in front of such a joiner. -/
  | joinedOdd
  /-- The tags of a flag in front of such a joiner: digits, letters behind them, and the end. -/
  | joinedTags (letters digits : Nat)
  /-- An Arabic alef. -/
  | alef
  /-- A Hebrew lamed, perhaps behind a joiner. -/
  | lamed (behindJoiner : Bool)
  /-- A Buginese ya, perhaps behind a joiner. -/
  | ya (behindJoiner : Bool)
  /-- A Buginese ya behind a joiner and a vowel sign. -/
  | vowelYa
  /-- A consonant of Tifinagh, perhaps behind a joiner. -/
  | tifinagh (behindJoiner : Bool)
  /-- A consonant of Tifinagh behind the joiner of that script. -/
  | joinedTifinagh
  /-- The second of two tone letters of Lisu. -/
  | tone
  /-- An Old Turkic letter i, perhaps behind a joiner. -/
  | orkhon (behindJoiner : Bool)
  /-- A Khmer letter that can be a subscript. -/
  | khmer
  deriving DecidableEq, Inhabited

namespace Follower

/-- Whether a letter has been read that a ligature can end in. -/
def isLetter : Follower → Bool
  | alef | lamed _ | ya _ | vowelYa | tifinagh _ | joinedTifinagh | tone | orkhon _ | khmer => true
  | _ => false

/-- Whether what has been read takes the emoji in front into its own columns. -/
def isJoined : Follower → Bool
  | joined | joinedKeycap => true
  | _ => false

/-- A letter with a joiner in front of it. -/
def behindJoiner : Follower → Follower
  | lamed _ => lamed true
  | ya _ => ya true
  | tifinagh _ => tifinagh true
  | orkhon _ => orkhon true
  | other => other

/-- What a character is the end of by itself. -/
def ofChar (c : Char) : Follower :=
  if isIndicator c then indicator
  else if isModifier c then modifier
  else if isEmoji c then emoji
  else if isAlef c then alef
  else if c = '\u05dc' then lamed false
  else if c = '\u1a10' then ya false
  else if isTifinagh c then tifinagh false
  else if isSecondTone c then tone
  else if c.toNat = 0x10C03 then orkhon false
  else if isKhmerSubscript c then khmer
  else plain

/-- A character in front of the second part of a ligature: the columns it adds and what is read
then, if it completes the ligature. -/
def ligate? (c : Char) : Follower → Option (Int × Follower)
  | alef => if isLam c then some (0, plain) else none
  | lamed true => if c = '\u05d0' then some (0, plain) else none
  | khmer => if c = '\u17d2' then some (-1, plain) else none
  | ya true => if c = '\u1a17' then some (0, vowelYa) else none
  | vowelYa => if c = '\u1a15' then some (0, plain) else none
  | tifinagh behindJoiner =>
    if c = '\u2d7f' then some (1, joinedTifinagh)
    else if behindJoiner && isTifinagh c then some (0, plain)
    else none
  | joinedTifinagh => if isTifinagh c then some (-1, plain) else none
  | tone => if isFirstTone c then some (0, plain) else none
  | orkhon true => if c.toNat = 0x10C32 then some (0, plain) else none
  | _ => none

/-- A character in front of a letter: the columns it adds and what is read then, if it belongs to
a ligature with it.  Marks may stand between the letters of a ligature, and joiners in all
scripts but the Arabic. -/
def attachLetter? (c : Char) (letter : Follower) : Option (Int × Follower) :=
  match ligate? c letter with
  | some result => some result
  | none =>
    if letter = alef then
      if isPassedOver c then some (0, alef) else none
    else if c = joiner then some (0, letter.behindJoiner)
    else if isIgnorableMark c then some (0, letter)
    else none

/-- A character in front of tags: the columns it adds and what is read then, if it belongs to
them.  The tags name a country by two letters or three digits, and behind it one to three or
four letters or digits for a part of the country. -/
def attachTag? (c : Char) (letters digits : Nat) : Option (Int × Follower) :=
  if isTagLetter c then
    if digits = 0 && letters < 6 then some (0, joinedTags (letters + 1) 0) else none
  else if isTagDigit c then
    if digits = 0 && letters ≤ 4 || 0 < digits && digits < 3 then
      some (0, joinedTags letters (digits + 1))
    else none
  else if c = blackFlag && (digits = 0 && 3 ≤ letters || digits = 3) then some (0, emoji)
  else none

/-- A character in front of emoji: the columns it adds and what is read then, if it belongs to a
sequence with them.  Of regional indicators in front of a joiner each two take the columns of one
flag, and the last two those of the sequence. -/
def attachEmoji? (c : Char) : Follower → Option (Int × Follower)
  | emoji => if c = joiner then some (0, joined) else none
  | modifier =>
    if c = joiner then some (0, joined)
    else if isModifierBase c then some (0, emoji)
    else none
  | indicator => if isIndicator c then some (1, indicators) else none
  | indicators =>
    if isIndicator c then some (1, indicators)
    else if c = joiner then some (0, joined)
    else none
  | joined =>
    if c = keycap then some (0, joinedKeycap)
    else if isIndicator c then some (1, joinedIndicator)
    else if isModifier c then some (0, modifier)
    else if c = tagEnd then some (0, joinedTags 0 0)
    else if isEmoji c then some (0, emoji)
    else none
  | joinedIndicator => if isIndicator c then some (-1, joinedEven) else none
  | joinedOdd =>
    if isIndicator c then some (-1, joinedEven)
    else if c = joiner then some (0, joined)
    else none
  | joinedEven =>
    if isIndicator c then some (3, joinedOdd)
    else if c = joiner then some (0, joined)
    else none
  | joinedTags letters digits => attachTag? c letters digits
  | _ => none

/-- The columns a character adds in front of what has been read, and what is read then. -/
def attach (c : Char) (follower : Follower) : Int × Follower :=
  let joint := if follower.isLetter then attachLetter? c follower else attachEmoji? c follower
  joint.getD (columns c, ofChar c)

end Follower

/-- What has been read of a line to the right of a character. -/
structure Context where
  /-- The beginning of a sequence. -/
  follower : Follower := .plain
  /-- Whether a selector of the style of an emoji stands in front of it. -/
  emojiStyle : Bool := false
  /-- Whether a selector of the style of text stands in front of it. -/
  textStyle : Bool := false
  deriving DecidableEq, Inhabited

namespace Context

/-- What is read with a selector of the style of an emoji in front.  Only letters and joined
emoji are kept behind a selector. -/
def behindEmojiSelector (context : Context) : Context :=
  if context.follower.isLetter || context.follower.isJoined then
    { context with emojiStyle := true }
  else ⟨.plain, true, false⟩

/-- What is read with a selector of the style of text in front. -/
def behindTextSelector (context : Context) : Context :=
  if context.follower.isLetter then { context with textStyle := true } else ⟨.plain, false, true⟩

/-- What is left when no character takes the selector of the style of an emoji. -/
def withoutEmojiStyle (context : Context) : Context :=
  if !context.emojiStyle then context
  else if context.follower.isLetter then { context with emojiStyle := false }
  else {}

/-- The columns that a character adds where no selector of the style of an emoji is for it, and
what is read then. -/
def place (c : Char) (context : Context) : Int × Context :=
  if c.toNat ≤ 0xA0 then (1, {})
  else if c = emojiSelector then (0, context.behindEmojiSelector)
  else if c = textSelector then (0, context.behindTextSelector)
  else if context.textStyle && isNarrowAsText c then (1, {})
  else
    let (added, follower) := context.follower.attach c
    (added, { follower })

/-- The columns that a character adds in front of what has been read, and what is read then. -/
def step (c : Char) (context : Context) : Int × Context :=
  if context.emojiStyle && hasTwoStyles c then
    (if context.follower.isJoined then 0 else 2, { follower := .emoji })
  else place c context.withoutEmojiStyle

end Context

/-- The columns of a line and what a character in front of it finds. -/
def scan (line : List Char) : Int × Context :=
  line.foldr (fun c (total, context) =>
    let (added, context) := context.step c
    (total + added, context)) (0, {})

/-- The number of columns of a line of text. -/
def width (line : List Char) : Nat :=
  (scan line).1.toNat

end Text

end LogSearch
