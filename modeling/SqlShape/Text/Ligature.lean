import SqlShape.Text.Columns
import SqlShape.Text.Emoji

/-!
# Ligatures

Letters that are written as one. A ligature is recognised from its end: the last letter opens it, and what
stands before that letter may join it. `Ligature` says which end was seen, `looksThrough` which characters may
stand in between, and `extend?` which letter joins and how many columns the whole gains by it.
-/

namespace SqlShape.Text

/-- The end of a possible ligature. -/
inductive Ligature where
  /-- The Arabic letter alef, which a lam before it joins. -/
  | alef
  /-- The Hebrew letter lamed, which an alef and a joiner before it join. -/
  | lamed
  /-- A Khmer letter that a coeng before it writes below the line. -/
  | khmerLetter
  /-- The Buginese letter ya, which an i and a joiner before it join. -/
  | bugineseYa
  /-- The Buginese vowel i joined to ya, which the letter a before it joins. -/
  | bugineseIYa
  /-- A Tifinagh consonant, which another one and a joiner before it join. -/
  | tifinagh
  /-- A Tifinagh consonant behind the joiner of its own script. -/
  | tifinaghPair
  /-- A Lisu tone letter, which a tone letter before it joins. -/
  | lisuTone
  /-- The Old Turkic letter i, which an ec and a joiner before it join. -/
  | turkicI
deriving DecidableEq, Repr

namespace Ligature

/-- Ranges of the Arabic letter alef in its forms. -/
def alefRanges : List (Nat × Nat) := [
  (0x622, 0x623), (0x625, 0x625), (0x627, 0x627), (0x671, 0x673), (0x675, 0x675), (0x773, 0x774),
  (0x870, 0x882)]

/-- Ranges of the Arabic letter lam in its forms. -/
def lamRanges : List (Nat × Nat) := [
  (0x644, 0x644), (0x6b5, 0x6b8), (0x76a, 0x76a), (0x8a6, 0x8a6), (0x8c7, 0x8c7)]

/-- Ranges of the Khmer letters that take no column when they are written below the line. -/
def khmerRanges : List (Nat × Nat) := [
  (0x1780, 0x1782), (0x1784, 0x1787), (0x1789, 0x178c), (0x178e, 0x1793), (0x1795, 0x1798),
  (0x179b, 0x179d), (0x17a0, 0x17a0), (0x17a2, 0x17a2), (0x17a7, 0x17a7), (0x17ab, 0x17ac),
  (0x17af, 0x17af)]

/-- Ranges of the Tifinagh consonants. -/
def tifinaghRanges : List (Nat × Nat) := [
  (0x2d31, 0x2d65), (0x2d6f, 0x2d6f)]

/-- Ranges of ignorable marks, which no ligature minds. -/
def ignorableMarkRanges : List (Nat × Nat) := [
  (0x34f, 0x34f), (0x17b4, 0x17b5), (0x180b, 0x180d), (0x180f, 0x180f), (0x200d, 0x200d),
  (0xfe00, 0xfe0f), (0xe0100, 0xe01ef)]

/-- Ranges of characters without width that separate Arabic letters. -/
def separatingRanges : List (Nat × Nat) := [
  (0x605, 0x605), (0x890, 0x891), (0x8e2, 0x8e2), (0x9be, 0x9be), (0x9d7, 0x9d7), (0xb3e, 0xb3e),
  (0xb57, 0xb57), (0xbbe, 0xbbe), (0xbd7, 0xbd7), (0xcc0, 0xcc0), (0xcc2, 0xcc2), (0xcc7, 0xcc8),
  (0xcca, 0xccb), (0xcd5, 0xcd6), (0xd3e, 0xd3e), (0xd4e, 0xd4e), (0xd57, 0xd57), (0xdcf, 0xdcf),
  (0xddf, 0xddf), (0x1160, 0x11ff), (0x1715, 0x1715), (0x1734, 0x1734), (0x180e, 0x180e),
  (0x1b35, 0x1b35), (0x1b3b, 0x1b3b), (0x1b3d, 0x1b3d), (0x1b43, 0x1b44), (0x1baa, 0x1baa),
  (0x1bf2, 0x1bf3), (0x200c, 0x200d), (0x2065, 0x2069), (0x302e, 0x302f), (0x3164, 0x3164),
  (0xa8fa, 0xa8fa), (0xa953, 0xa953), (0xa9c0, 0xa9c0), (0xd7b0, 0xd7c6), (0xd7cb, 0xd7fb),
  (0xffa0, 0xffa0), (0xfff0, 0xfff8), (0x111c0, 0x111c0), (0x111c2, 0x111c3), (0x11235, 0x11235),
  (0x1133e, 0x1133e), (0x1134d, 0x1134d), (0x11357, 0x11357), (0x113b8, 0x113b8), (0x113c2, 0x113c2),
  (0x113c5, 0x113c5), (0x113c7, 0x113c9), (0x113cf, 0x113cf), (0x113d1, 0x113d1), (0x114b0, 0x114b0),
  (0x114bd, 0x114bd), (0x115af, 0x115af), (0x116b6, 0x116b6), (0x11930, 0x11930), (0x1193d, 0x1193d),
  (0x1193f, 0x1193f), (0x11941, 0x11941), (0x11a84, 0x11a89), (0x11d46, 0x11d46), (0x11f02, 0x11f02),
  (0x11f41, 0x11f41), (0x16ff0, 0x16ff1), (0x1d165, 0x1d166), (0x1d16d, 0x1d172), (0xe0000, 0xe0000),
  (0xe0002, 0xe001f), (0xe0080, 0xe00ff), (0xe01f0, 0xe0fff)]

/-- The ligature that a letter may end. -/
def ofChar? (c : Char) : Option Ligature :=
  if inRanges alefRanges c then some .alef
  else if inRanges khmerRanges c then some .khmerLetter
  else if inRanges tifinaghRanges c then some .tifinagh
  else
    match c.toNat with
    | 0x5dc => some .lamed
    | 0x1a10 => some .bugineseYa
    | 0xa4fc | 0xa4fd => some .lisuTone
    | 0x10c03 => some .turkicI
    | _ => none

/-- The character may stand inside the ligature without breaking it. -/
def looksThrough (c : Char) : Ligature → Bool
  | .alef => isZeroWidth c && !inRanges separatingRanges c
  | _ => inRanges ignorableMarkRanges c

/-- The columns that a letter adds by joining a ligature, and the ligature that then stands behind, if
another letter may join. `joined` tells that a joiner stands between the letter and the rest. -/
def extend? (joined : Bool) (c : Char) : Ligature → Option (Int × Option Ligature)
  | .alef => if inRanges lamRanges c then some (0, none) else none
  | .lamed => if joined ∧ c.toNat = 0x5d0 then some (0, none) else none
  | .khmerLetter => if c.toNat = 0x17d2 then some (-1, none) else none
  | .bugineseYa => if joined ∧ c.toNat = 0x1a17 then some (0, some .bugineseIYa) else none
  | .bugineseIYa => if c.toNat = 0x1a15 then some (0, none) else none
  | .tifinagh =>
    if c.toNat = 0x2d7f then some (1, some .tifinaghPair)
    else if joined ∧ inRanges tifinaghRanges c then some (0, none)
    else none
  | .tifinaghPair => if inRanges tifinaghRanges c then some (-1, none) else none
  | .lisuTone => if inRanges [(0xa4f8, 0xa4fb)] c then some (0, none) else none
  | .turkicI => if joined ∧ c.toNat = 0x10c32 then some (0, none) else none

end Ligature

end SqlShape.Text
