import SqlShape.Text.Cluster

/-!
# Display width

The number of terminal columns that a text takes. A character takes its own columns unless it joins the cluster
behind it, or a selector behind it sets its style. The text is read from its end, so that a character is measured
with what stands behind it: `Behind` keeps as much of that as matters, `measureChar` gives the columns of a
character in front of it, and `width` adds them up.
-/

namespace SqlShape.Text

/-- What stands behind a place: a cluster, and the selectors in front of it that wait for their character. -/
structure Behind where
  cluster : Cluster := .nothing
  emojiStyle : Bool := false
  textStyle : Bool := false
deriving DecidableEq, Repr

namespace Behind

/-- Behind a selector of the emoji style. -/
def selectEmoji (b : Behind) : Behind :=
  if b.cluster.isLigature ∨ b.cluster.joinsEmoji then { b with emojiStyle := true } else { emojiStyle := true }

/-- Behind a selector of the text style. -/
def selectText (b : Behind) : Behind :=
  if b.cluster.isLigature then { b with textStyle := true } else { textStyle := true }

/-- A selector of the emoji style that no character took is dropped, and with it any cluster of emoji. -/
def dropEmojiStyle (b : Behind) : Behind :=
  if !b.emojiStyle then b
  else if b.cluster.isLigature then { b with emojiStyle := false }
  else {}

end Behind

/-- The last of the characters that join no cluster and take one column. -/
def lastPlain : Nat :=
  0xa0

/-- The columns of a character in front of `b`, when no selector of the emoji style waits for it, and what then
stands behind the character before it. -/
def measurePlain (c : Char) (b : Behind) : Int × Behind :=
  if c.toNat ≤ lastPlain then (1, {})
  else if c = emojiSelector then (0, b.selectEmoji)
  else if c = textSelector then (0, b.selectText)
  else if b.textStyle ∧ hasTextStyle c then (1, {})
  else
    match b.cluster.extend? c with
    | some (columns, cluster) => (columns, { cluster })
    | none => (charWidth c, { cluster := .ofChar c })

/-- The columns of a character in front of `b`, and what then stands behind the character before it. -/
def measureChar (c : Char) (b : Behind) : Int × Behind :=
  if b.emojiStyle ∧ hasEmojiStyle c then (if b.cluster.joinsEmoji then 0 else 2, { cluster := .emoji })
  else measurePlain c b.dropEmojiStyle

/-- The columns of characters, and what stands behind the place before them. -/
def measureAll (cs : List Char) : Int × Behind :=
  cs.foldr (fun c (columns, behind) =>
    let (more, behind) := measureChar c behind
    (columns + more, behind)) (0, {})

/-- Columns of a text. -/
def width (text : String) : Nat :=
  (measureAll text.toList).1.toNat

end SqlShape.Text
