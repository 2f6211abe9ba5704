import SqlShape.Text.Ligature

/-!
# Clusters of characters

Emoji sequences and ligatures are drawn as one. A text is read from its end, and a `Cluster` is what is known of
the characters read last: `Cluster.ofChar` begins one, and `Cluster.extend?` says whether the character before joins
it and how many columns the whole gains by that.
-/

namespace SqlShape.Text

/-- The characters behind a place, as far as they bear on the one before it. -/
inductive Cluster where
  /-- Nothing that the character before could join. -/
  | nothing
  /-- A ligature, and whether a joiner was read in front of it. -/
  | ligature (last : Ligature) (joined : Bool)
  /-- The Kirat Rai vowel e. -/
  | kiratE
  /-- The Kirat Rai vowel ai. -/
  | kiratAi
  | emoji
  | skinTone
  | flagLetter
  /-- Two or more letters of flags. -/
  | flagLetters
  /-- A joiner and an emoji. -/
  | joinedEmoji
  /-- A keycap before a joiner and an emoji. -/
  | joinedKeycap
  /-- A letter of a flag before a joiner and an emoji. -/
  | joinedFlagLetter
  /-- Two or more letters of flags before a joiner and an emoji, and whether their number is odd. -/
  | joinedFlagLetters (odd : Bool)
  /-- The end of tags and so many letters before it, before a joiner and an emoji. -/
  | joinedTagLetters (count : Nat)
  /-- Such tags that begin with so many digits. -/
  | joinedTagDigits (count : Nat)
deriving DecidableEq, Repr

namespace Cluster

/-- The cluster that a character begins by itself. -/
def ofChar (c : Char) : Cluster :=
  match Ligature.ofChar? c with
  | some last => .ligature last false
  | none =>
    if isSkinTone c then .skinTone
    else if isFlagLetter c then .flagLetter
    else if isEmoji c then .emoji
    else
      match c.toNat with
      | 0x16d67 => .kiratE
      | 0x16d68 => .kiratAi
      | _ => .nothing

/-- A selector that stands in front of the cluster does not end it. -/
def isLigature : Cluster → Bool
  | ligature _ _ => true
  | _ => false

/-- An emoji in front of the cluster is drawn as one with it. -/
def joinsEmoji : Cluster → Bool
  | joinedEmoji | joinedKeycap => true
  | _ => false

/-- Tags that may stand between a black flag and their end: three to six letters, or digits after the
country. -/
def areTags : Cluster → Bool
  | joinedTagLetters count => decide (3 ≤ count)
  | joinedTagDigits count => decide (3 ≤ count)
  | _ => false

/-- The columns that a character adds in front of an emoji and its joiner, and the cluster that it makes. -/
def extendJoined? (c : Char) : Option (Int × Cluster) :=
  if c = keycap then some (0, joinedKeycap)
  else if isFlagLetter c then some (1, joinedFlagLetter)
  else if isSkinTone c then some (0, skinTone)
  else if c = tagEnd then some (0, joinedTagLetters 0)
  else if isEmoji c then some (0, emoji)
  else none

/-- The columns that a character adds in front of tags, and the cluster that it makes. -/
def extendTags? (c : Char) (tags : Cluster) : Option (Int × Cluster) :=
  match tags with
  | joinedTagLetters count =>
    if isTagLetter c ∧ count < 6 then some (0, joinedTagLetters (count + 1))
    else if isTagDigit c ∧ count < 5 then some (0, joinedTagDigits 1)
    else if c = blackFlag ∧ tags.areTags then some (0, emoji)
    else none
  | joinedTagDigits count =>
    if isTagDigit c ∧ count < 3 then some (0, joinedTagDigits (count + 1))
    else if c = blackFlag ∧ tags.areTags then some (0, emoji)
    else none
  | _ => none

/-- The columns that a character adds when it joins the cluster behind it, and the cluster that both make. -/
def extend? (c : Char) : Cluster → Option (Int × Cluster)
  | nothing => none
  | ligature last joined =>
    if last.looksThrough c then some (0, ligature last (joined || c == joiner))
    else
      (last.extend? joined c).map fun (columns, rest) =>
        (columns, match rest with
          | some last => ligature last false
          | none => nothing)
  | kiratE =>
    match c.toNat with
    | 0x16d63 | 0x16d69 => some (0, nothing)
    | 0x16d67 => some (0, kiratAi)
    | 0x16d68 => some (1, kiratE)
    | _ => none
  | kiratAi => if c.toNat = 0x16d63 then some (0, nothing) else none
  | emoji => if c = joiner then some (0, joinedEmoji) else none
  | skinTone =>
    if takesSkinTone c then some (0, emoji)
    else if c = joiner then some (0, joinedEmoji)
    else none
  | flagLetter => if isFlagLetter c then some (1, flagLetters) else none
  | flagLetters =>
    if isFlagLetter c then some (1, flagLetters)
    else if c = joiner then some (0, joinedEmoji)
    else none
  | joinedEmoji => extendJoined? c
  | joinedKeycap => none
  | joinedFlagLetter => if isFlagLetter c then some (-1, joinedFlagLetters false) else none
  | joinedFlagLetters odd =>
    if isFlagLetter c then some (if odd then -1 else 3, joinedFlagLetters !odd)
    else if c = joiner then some (0, joinedEmoji)
    else none
  | joinedTagLetters count => extendTags? c (joinedTagLetters count)
  | joinedTagDigits count => extendTags? c (joinedTagDigits count)

end Cluster

end SqlShape.Text
