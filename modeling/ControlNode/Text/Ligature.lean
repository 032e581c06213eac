import ControlNode.Text.WidthTable

/-!
# Letters that join

In some scripts letters that follow each other join, and together take other columns than they take
apart. A text is read from its end: a `Ligature` is what the letters read so far offer to the
character before them, and `Ligature.before` says whether that character joins them.
-/

namespace ControlNode.Text

/-- The characters without a column that keep Arabic letters apart. -/
def partingRanges : List (Nat × Nat) :=
  [(0x605, 0x605), (0x890, 0x891), (0x8E2, 0x8E2), (0x9BE, 0x9BE), (0x9D7, 0x9D7), (0xB3E, 0xB3E),
   (0xB57, 0xB57), (0xBBE, 0xBBE), (0xBD7, 0xBD7), (0xCC0, 0xCC0), (0xCC2, 0xCC2), (0xCC7, 0xCC8),
   (0xCCA, 0xCCB), (0xCD5, 0xCD6), (0xD3E, 0xD3E), (0xD4E, 0xD4E), (0xD57, 0xD57), (0xDCF, 0xDCF),
   (0xDDF, 0xDDF), (0x1160, 0x11FF), (0x1715, 0x1715), (0x1734, 0x1734), (0x180E, 0x180E),
   (0x1B35, 0x1B35), (0x1B3B, 0x1B3B), (0x1B3D, 0x1B3D), (0x1B43, 0x1B44), (0x1BAA, 0x1BAA),
   (0x1BF2, 0x1BF3), (0x200C, 0x200D), (0x2065, 0x2069), (0x302E, 0x302F), (0x3164, 0x3164),
   (0xA8FA, 0xA8FA), (0xA953, 0xA953), (0xA9C0, 0xA9C0), (0xD7B0, 0xD7C6), (0xD7CB, 0xD7FB),
   (0xFFA0, 0xFFA0), (0xFFF0, 0xFFF8), (0x111C0, 0x111C0), (0x111C2, 0x111C3), (0x11235, 0x11235),
   (0x1133E, 0x1133E), (0x1134D, 0x1134D), (0x11357, 0x11357), (0x113B8, 0x113B8),
   (0x113C2, 0x113C2), (0x113C5, 0x113C5), (0x113C7, 0x113C9), (0x113CF, 0x113CF),
   (0x113D1, 0x113D1), (0x114B0, 0x114B0), (0x114BD, 0x114BD), (0x115AF, 0x115AF),
   (0x116B6, 0x116B6), (0x11930, 0x11930), (0x1193D, 0x1193D), (0x1193F, 0x1193F),
   (0x11941, 0x11941), (0x11A84, 0x11A89), (0x11D46, 0x11D46), (0x11F02, 0x11F02),
   (0x11F41, 0x11F41), (0x16FF0, 0x16FF1), (0x1D165, 0x1D166), (0x1D16D, 0x1D172),
   (0x1D250, 0x1D252), (0x1D25F, 0x1D25F), (0xE0000, 0xE0000), (0xE0002, 0xE001F),
   (0xE0080, 0xE00FF), (0xE01F0, 0xE0FFF)]

/-- The characters that can stand inside a ligature and are not seen. -/
def hiddenRanges : List (Nat × Nat) :=
  [(0x34F, 0x34F), (0x17B4, 0x17B5), (0x180B, 0x180D), (0x180F, 0x180F), (0x200D, 0x200D),
   (0xFE00, 0xFE0F), (0xE0100, 0xE01EF)]

/-- The forms of the Arabic letter alef that a lam before them joins. -/
def alefRanges : List (Nat × Nat) :=
  [(0x622, 0x623), (0x625, 0x625), (0x627, 0x627), (0x671, 0x673), (0x675, 0x675),
   (0x773, 0x774), (0x870, 0x882)]

/-- The forms of the Arabic letter lam. -/
def lamRanges : List (Nat × Nat) :=
  [(0x644, 0x644), (0x6B5, 0x6B8), (0x76A, 0x76A), (0x8A6, 0x8A6), (0x8C7, 0x8C7)]

/-- The Khmer letters that can be written below another. -/
def khmerRanges : List (Nat × Nat) :=
  [(0x1780, 0x1782), (0x1784, 0x1787), (0x1789, 0x178C), (0x178E, 0x1793), (0x1795, 0x1798),
   (0x179B, 0x179D), (0x17A0, 0x17A0), (0x17A2, 0x17A2), (0x17A7, 0x17A7), (0x17AB, 0x17AC),
   (0x17AF, 0x17AF)]

/-- The Tifinagh consonants. -/
def tifinaghRanges : List (Nat × Nat) := [(0x2D31, 0x2D65), (0x2D6F, 0x2D6F)]

/-- Whether a mark leaves the Arabic letters around it joined. -/
def isArabicTransparent (c : Char) : Bool :=
  charWidth c == 0 && !inRanges partingRanges c.toNat

/-- What letters offer to the character before them. Those with a `joiner` join only if a zero-width
joiner stands before them. -/
inductive Ligature where
  | arabicAlef
  | hebrewLamed (joiner : Bool)
  | khmerLetter
  | bugineseYa (joiner : Bool)
  /-- The Buginese vowel sign i, a joiner and the letter ya. -/
  | bugineseSyllable
  | tifinagh (joiner : Bool)
  /-- A Tifinagh consonant that the consonant joiner stands before. -/
  | tiedTifinagh
  | lisuTone
  | turkicI (joiner : Bool)
  | kiratVowelE
  | kiratVowelAi
deriving DecidableEq, Repr

namespace Ligature

/-- What a letter at the end of a text offers. -/
def ofChar? (c : Char) : Option Ligature :=
  let n := c.toNat
  if inRanges alefRanges n then some .arabicAlef
  else if inRanges khmerRanges n then some .khmerLetter
  else if inRanges tifinaghRanges n then some (.tifinagh false)
  else match n with
    | 0x5DC => some (.hebrewLamed false)
    | 0x1A10 => some (.bugineseYa false)
    | 0xA4FC | 0xA4FD => some .lisuTone
    | 0x10C03 => some (.turkicI false)
    | 0x16D67 => some .kiratVowelE
    | 0x16D68 => some .kiratVowelAi
    | _ => none

/-- Whether a variation selector before the letters leaves them able to join. -/
def allowsSelector : Ligature → Bool
  | .kiratVowelE | .kiratVowelAi => false
  | _ => true

/-- Whether characters that are not seen leave the letters after them able to join. -/
def allowsHidden : Ligature → Bool
  | .arabicAlef | .kiratVowelE | .kiratVowelAi => false
  | _ => true

/-- The letters with a zero-width joiner before them. -/
def withJoiner : Ligature → Ligature
  | .hebrewLamed _ => .hebrewLamed true
  | .bugineseYa _ => .bugineseYa true
  | .tifinagh _ => .tifinagh true
  | .turkicI _ => .turkicI true
  | l => l

/-- The columns that a letter adds when it joins the letters after it, and what they offer then.
`none` means that it does not join them. -/
def join (l : Ligature) (c : Char) : Option (Int × Option Ligature) :=
  let n := c.toNat
  match l with
  | .arabicAlef =>
    if inRanges lamRanges n then some (0, none)
    else if isArabicTransparent c then some (0, some .arabicAlef)
    else none
  | .hebrewLamed joiner => if joiner && n == 0x5D0 then some (0, none) else none
  | .khmerLetter => if n == 0x17D2 then some (-1, none) else none
  | .bugineseYa joiner => if joiner && n == 0x1A17 then some (0, some .bugineseSyllable) else none
  | .bugineseSyllable => if n == 0x1A15 then some (0, none) else none
  | .tifinagh joiner =>
    if n == 0x2D7F then some (1, some .tiedTifinagh)
    else if joiner && inRanges tifinaghRanges n then some (0, none)
    else none
  | .tiedTifinagh => if inRanges tifinaghRanges n then some (-1, none) else none
  | .lisuTone => if inRanges [(0xA4F8, 0xA4FB)] n then some (0, none) else none
  | .turkicI joiner => if joiner && n == 0x10C32 then some (0, none) else none
  | .kiratVowelE => match n with
    | 0x16D63 | 0x16D69 => some (0, none)
    | 0x16D67 => some (0, some .kiratVowelAi)
    | 0x16D68 => some (1, some .kiratVowelE)
    | _ => none
  | .kiratVowelAi => if n == 0x16D63 then some (0, none) else none

/-- The columns that a character adds before letters that may join it, and what they offer then.
`none` means that it does not join them. -/
def before (l : Ligature) (c : Char) : Option (Int × Option Ligature) :=
  if l.allowsHidden && inRanges hiddenRanges c.toNat then
    some (0, some (if c.toNat = 0x200D then l.withJoiner else l))
  else l.join c

end Ligature

end ControlNode.Text
