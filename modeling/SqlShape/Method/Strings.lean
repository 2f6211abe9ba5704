import SqlShape.Dialect.Functions
import SqlShape.Method.Rule
import SqlShape.Text.Blank
import SqlShape.Text.Case

/-!
# Methods on text

Searching, cutting and changing the case of text. A call on a constant is computed here. A constant pattern
becomes an escaped pattern match or a position test; a pattern known only at run time is compared with the
piece of the text of its length. An empty pattern is found everywhere, but has no position, so a search for a
pattern known only at run time also asks whether it is empty.
-/

namespace SqlShape.MethodRule

/-- The text of a text constant. -/
def textOf? (e : Expr String) : Option String :=
  match e.constant? with
  | some (.text s) => some s
  | _ => none

/-- The integer of a short integer constant. -/
def indexOf? (e : Expr String) : Option Int :=
  match e.constant? with
  | some (.int i) => some i.toInt
  | some (.byte b) => some b.toNat
  | _ => none

/-- The first text occurs somewhere in the second. -/
def occursIn (sought : List Char) : List Char → Bool
  | [] => sought.isEmpty
  | c :: rest => sought.isPrefixOf (c :: rest) || occursIn sought rest

/-- The length of a text expression. -/
def textLength (d : Dialect) (b : Builder) (e : Expr String) : Except QueryError (Expr String) :=
  b.function d.functions.textLength [e] .int32

/-- A match with an escaped fragment that is followed or preceded by anything. -/
def fragmentMatch (d : Dialect) (b : Builder) (subject : Expr String) (fragment : String) (atStart : Bool) :
    Except QueryError (Expr String) := do
  let escaped := d.escapePattern fragment.toList
  let pattern ← b.constant (.text (String.ofList (if atStart then escaped ++ ['%'] else '%' :: escaped)))
  let escape ← b.constant (.text (String.ofList [d.functions.patternEscape]))
  b.like subject pattern (some escape)

/-- `Contains`. -/
def textContains (d : Dialect) (b : Builder) (subject pattern : Expr String) : Except QueryError (Expr String) := do
  let found := do
    let position ← d.position b pattern subject
    let zero ← b.constant (.int 0)
    b.comparison .greater position zero
  match textOf? subject, textOf? pattern with
  | some s, some p => return b.truth (occursIn p.toList s.toList)
  | none, some p => if p = "" then return b.truth true else found
  | _, none =>
    let found ← found
    let empty ← b.constant (.text "")
    let isEmpty ← b.comparison .equal pattern empty
    b.or found isEmpty

/-- `StartsWith`. -/
def textStartsWith (d : Dialect) (b : Builder) (subject pattern : Expr String) : Except QueryError (Expr String) := do
  match textOf? subject, textOf? pattern with
  | some s, some p => return b.truth (p.toList.isPrefixOf s.toList)
  | none, some p => fragmentMatch d b subject p true
  | _, none =>
    let one ← b.constant (.int 1)
    let length ← textLength d b pattern
    let head := Builder.call d.functions.substring [subject, one, length] subject.mapping
    b.comparison .equal head pattern

/-- The last characters of a text, as many as another text has. -/
def textTail (d : Dialect) (b : Builder) (subject length : Expr String) : Except QueryError (Expr String) := do
  match d with
  | .sqlServer => return Builder.call "RIGHT" [subject, length] subject.mapping
  | .sqlite =>
    let zero ← b.constant (.int 0)
    let fromEnd ← b.arithmetic .subtract zero length
    return Builder.call d.functions.substring [subject, fromEnd] subject.mapping

/-- `EndsWith`. -/
def textEndsWith (d : Dialect) (b : Builder) (subject pattern : Expr String) : Except QueryError (Expr String) := do
  match textOf? subject, textOf? pattern with
  | some s, some p => return b.truth (p.toList.isSuffixOf s.toList)
  | none, some p => fragmentMatch d b subject p false
  | _, none =>
    let length ← textLength d b pattern
    let tail ← textTail d b subject length
    b.comparison .equal tail pattern

/-- A method without arguments, by a function of the dialect and the same function on constants. -/
def textFunction (name : String) (compute : String → String) (b : Builder) (subject : Expr String) :
    Except QueryError (Expr String) :=
  match textOf? subject with
  | some s => b.constant (.text (compute s))
  | none => .ok (Builder.call name [subject] subject.mapping)

/-- The piece of a constant that starts at a known place and has a known length or reaches to the end, where it
lies within the text. -/
def constantPiece? (subject start : Expr String) (length : Option (Expr String)) : Option String := do
  let s ← textOf? subject
  let first ← indexOf? start
  let count : Int := s.length
  let size ← match length with
    | none => some (max (count - first) 0)
    | some e => indexOf? e
  if 0 ≤ first ∧ 0 ≤ size ∧ first + size ≤ count then
    some (String.ofList ((s.toList.drop first.toNat).take size.toNat))
  else none

/-- The place after `i` places, counted from one; the largest word counts no further. -/
def nextPlace (i : Int) : Int32 :=
  Int32.ofInt (min (i + 1) Int32.maxValue.toInt)

/-- `Substring`. Places counted from zero become places counted from one. -/
def textSubstring (d : Dialect) (b : Builder) (subject start : Expr String) (length : Option (Expr String)) :
    Except QueryError (Expr String) := do
  match constantPiece? subject start length with
  | some piece => b.constant (.text piece)
  | none =>
    let place ← match indexOf? start with
      | some i => b.constant (.int (nextPlace i))
      | none => do b.arithmetic .add start (← b.constant (.int 1))
    let more ← match length, d with
      | some e, _ => pure [e]
      | none, .sqlServer => pure [← textLength d b subject]
      | none, .sqlite => pure []
    return Builder.call d.functions.substring (subject :: place :: more) subject.mapping

/-- A search method on a text, which declines a pattern that is no text. -/
def lowerSearch (c : MethodCall)
    (search : Expr String → Expr String → Except QueryError (Expr String)) (subject : Expr String) :
    Except QueryError (Option (Expr String)) := do
  let pattern ← c.oneArgument
  if pattern.type ≠ .text then return none
  return some (← search subject pattern)

/-- Lowers a call on a text. -/
def lowerText (d : Dialect) (b : Builder) (c : MethodCall) (subject : Expr String) :
    Except QueryError (Option (Expr String)) := do
  match c.method.name with
  | "Contains" => lowerSearch c (textContains d b) subject
  | "StartsWith" => lowerSearch c (textStartsWith d b) subject
  | "EndsWith" => lowerSearch c (textEndsWith d b) subject
  | "ToUpper" =>
    c.requireArguments 0
    return some (← textFunction d.functions.upper Text.upper b subject)
  | "ToLower" =>
    c.requireArguments 0
    return some (← textFunction d.functions.lower Text.lower b subject)
  | "Trim" =>
    c.requireArguments 0
    return some (← textFunction d.functions.trim Text.trim b subject)
  | "Length" =>
    c.requireArguments 0
    match textOf? subject with
    | some s => return some (← b.constant (.int (Int32.ofInt (min s.length Int32.maxValue.toInt))))
    | none => return some (← textLength d b subject)
  | "Substring" =>
    match c.arguments with
    | [start] =>
      if start.type = .text then return none
      return some (← textSubstring d b subject start none)
    | [start, length] =>
      if start.type = .text ∨ length.type = .text then return none
      return some (← textSubstring d b subject start (some length))
    | as => c.invalid (.substringArguments as.length)
  | _ => return none

/-- Arguments that a method on text may take. -/
def isTextArgument (e : Expr String) : Bool :=
  match e.type with
  | .text | .int32 | .byte => true
  | _ => false

/-- The methods on text. -/
def strings (d : Dialect) : MethodRule where
  name := "string"
  priority := defaultPriority
  accepts m :=
    decide (m.declaringType = .string)
      && ["Contains", "StartsWith", "EndsWith", "ToUpper", "ToLower", "Trim", "Length", "Substring"].contains m.name
  apply b c := do
    let subject ← c.requireReceiver
    if subject.type ≠ .text ∨ !c.arguments.all isTextArgument then return none
    lowerText d b c subject

end SqlShape.MethodRule
