import ControlNode.Text.Emoji
import ControlNode.Text.Ligature

/-!
# Display width

The number of terminal columns that a line takes. Most lines take the sum over their characters, but
letters and emoji may join with those before them, and a variation selector makes the character
before it a picture, plain text or full-width. A line is measured from its end, so that each
character meets what the characters after it offer.
-/

namespace ControlNode.Text

/-- What the characters after a place offer to the character before it. -/
inductive Tail where
  | plain
  | ligature (l : Ligature)
  | emoji (e : Emoji)
deriving DecidableEq, Repr

/-- The variation selectors that change columns. -/
inductive Selector where
  | picture
  | text
  | fullWidth
deriving DecidableEq, Repr

/-- A tail with the selectors before it that have yet to choose, the first of them first. -/
structure Ending where
  tail : Tail := .plain
  selectors : List Selector := []
deriving DecidableEq, Repr

namespace Tail

def isEmoji : Tail → Bool
  | .emoji _ => true
  | _ => false

/-- What a character that joins nothing after it offers. -/
def ofChar (c : Char) : Tail :=
  match Ligature.ofChar? c, Emoji.ofChar? c with
  | some l, _ => .ligature l
  | none, some e => .emoji e
  | none, none => .plain

/-- The columns that a character adds before a tail that it joins, and the tail then. -/
def before : Tail → Char → Option (Int × Tail)
  | .plain, _ => none
  | .ligature l, c => (l.before c).map fun (n, l?) => (n, l?.elim .plain .ligature)
  | .emoji e, c => (e.before c).map fun (n, e) => (n, .emoji e)

/-- What a tail still offers when a selector stands before it. -/
def under (t : Tail) (s : Selector) : Tail :=
  match t with
  | .plain => .plain
  | .ligature l => if l.allowsSelector then t else .plain
  | .emoji e => if e.allowsSelector && s == .picture then t else .plain

/-- Whether the tail consists of letters that may join. -/
def isLigature : Tail → Bool
  | .ligature _ => true
  | _ => false

end Tail

namespace Selector

/-- The selector that a character is. -/
def ofChar? (c : Char) : Option Selector :=
  match c.toNat with
  | 0xFE0F => some .picture
  | 0xFE0E => some .text
  | 0xFE01 => some .fullWidth
  | _ => none

/-- The columns of a character for which a selector has a choice, before the given tail, and the
tail then. A picture that emoji join adds nothing to them. -/
def choose (s : Selector) (t : Tail) (c : Char) : Option (Int × Tail) :=
  match s with
  | .picture =>
    if isVariationBase c then some (if t.isEmoji then 0 else 2, .emoji .picture) else none
  | .text =>
    if isVariationBase c && isPicture c && !isFramedIdeograph c then some (1, .plain) else none
  | .fullWidth =>
    if inRanges [(0x2018, 0x2019), (0x201C, 0x201D)] c.toNat then some (2, .plain) else none

end Selector

namespace Ending

/-- What an ending offers where none of its selectors chose. Only letters still join then. -/
def unselected (e : Ending) : Tail :=
  if e.selectors.isEmpty || e.tail.isLigature then e.tail else .plain

/-- An ending with one more selector before it. Over letters that may join, a selector for text or
full width waits behind the one before it; in all other places the first selector is the only
one. -/
def select (e : Ending) (s : Selector) : Ending :=
  let tail := e.unselected.under s
  { tail, selectors := s :: if tail.isLigature then e.selectors.filter (· != .picture) else [] }

/-- The columns that a character adds before an ending, and the ending then. -/
def before (e : Ending) (c : Char) : Int × Ending :=
  match e.selectors.findSome? (·.choose e.tail c), Selector.ofChar? c with
  | some (n, tail), _ => (n, { tail })
  | none, some s => (0, e.select s)
  | none, none =>
    match e.unselected.before c with
    | some (n, tail) => (n, { tail })
    | none => (charWidth c, { tail := .ofChar c })

end Ending

/-- The columns of a line and how it starts, for the text before it. -/
def measure : List Char → Int × Ending
  | [] => (0, {})
  | c :: rest =>
    let (columns, ending) := measure rest
    let (n, ending) := ending.before c
    (n + columns, ending)

@[simp] theorem measure_nil : measure [] = (0, {}) := rfl

@[simp] theorem measure_cons (c : Char) (rest : List Char) :
    measure (c :: rest) =
      (((measure rest).2.before c).1 + (measure rest).1, ((measure rest).2.before c).2) := rfl

/-- The columns of a line. They are never below zero, since a character takes back only what the
letters that it joins have added. -/
def width (line : String) : Nat := (measure line.toList).1.toNat

end ControlNode.Text
