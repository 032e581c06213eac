import ControlNode.Text.EmojiTable

/-!
# Pictures of several characters

Emoji join to one picture of two columns: a person and a skin tone, the two letters of a flag, a
black flag and the tags of a region, and pictures with a zero-width joiner between them. A text is
read from its end: an `Emoji` is what the characters read so far offer to the character before them,
and `Emoji.before` says whether that character joins them.
-/

namespace ControlNode.Text

/-- The tags that end a flag of a region, as far as they are read: letters and digits up to the last
letter, or digits alone up to the last digit. -/
inductive TagRun where
  | letters (count : Nat)
  | digits (count : Nat)
deriving DecidableEq, Repr

namespace TagRun

/-- The run with one more tag at its start. A region has two letters or three digits, and up to four
letters name a part of it. -/
def before (t : TagRun) (c : Char) : Option TagRun :=
  let letter := inRanges [(0xE0061, 0xE007A)] c.toNat
  let digit := inRanges [(0xE0030, 0xE0039)] c.toNat
  match t with
  | .letters n =>
    if letter && n < 6 then some (.letters (n + 1))
    else if digit && n ≤ 4 then some (.digits 1)
    else none
  | .digits n => if digit && n < 3 then some (.digits (n + 1)) else none

/-- Whether the tags name a region and a part of it. -/
def isComplete : TagRun → Bool
  | .letters n => 3 ≤ n
  | .digits n => n = 3

end TagRun

/-- What emoji offer to the character before them. Those that are `joined` have a zero-width joiner
before them, by which they add nothing to the picture that the joiner follows. -/
inductive Emoji where
  | picture
  | tone
  | flagLetter
  | flagLetters
  | joined
  | joinedKeycap
  | joinedFlagLetter
  /-- Letters of flags before a joiner, an even number of them. -/
  | joinedFlags
  /-- Letters of flags before a joiner, three or more and an odd number of them. -/
  | joinedFlagsAndLetter
  | joinedTags (t : TagRun)
deriving DecidableEq, Repr

namespace Emoji

/-- What a character at the end of a text offers. -/
def ofChar? (c : Char) : Option Emoji :=
  if isFlagLetter c then some .flagLetter
  else if isTone c then some .tone
  else if isPicture c then some .picture
  else none

/-- Whether the emoji still join when a variation selector before them asks for a picture. -/
def allowsSelector : Emoji → Bool
  | .joined | .joinedKeycap => true
  | _ => false

/-- The columns that a character adds before emoji that it joins, and what they offer then. The
letters of flags pair up from the left, so each one read may turn all pairs around. `none` means
that it does not join them. -/
def before (e : Emoji) (c : Char) : Option (Int × Emoji) :=
  let n := c.toNat
  match e with
  | .picture => if n == 0x200D then some (0, .joined) else none
  | .tone =>
    if isToneBase c then some (0, .picture)
    else if n == 0x200D then some (0, .joined)
    else none
  | .flagLetter => if isFlagLetter c then some (1, .flagLetters) else none
  | .flagLetters =>
    if isFlagLetter c then some (1, .flagLetters)
    else if n == 0x200D then some (0, .joined)
    else none
  | .joined =>
    if n == 0x20E3 then some (0, .joinedKeycap)
    else if isFlagLetter c then some (1, .joinedFlagLetter)
    else if isTone c then some (0, .tone)
    else if n == 0xE007F then some (0, .joinedTags (.letters 0))
    else if isPicture c then some (0, .picture)
    else none
  | .joinedKeycap => none
  | .joinedFlagLetter => if isFlagLetter c then some (-1, .joinedFlags) else none
  | .joinedFlags =>
    if isFlagLetter c then some (3, .joinedFlagsAndLetter)
    else if n == 0x200D then some (0, .joined)
    else none
  | .joinedFlagsAndLetter =>
    if isFlagLetter c then some (-1, .joinedFlags)
    else if n == 0x200D then some (0, .joined)
    else none
  | .joinedTags t =>
    if t.isComplete && n == 0x1F3F4 then some (0, .picture)
    else (t.before c).map fun t => (0, .joinedTags t)

end Emoji

end ControlNode.Text
