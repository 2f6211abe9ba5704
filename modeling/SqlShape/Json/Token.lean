import SqlShape.Json.Basic

/-!
# JSON tokens

The text of a document is cut into brackets, separators, texts and words. A word is a run of the characters
that numbers and names are made of; it is a number, `true`, `false` or `null`, or no token at all. Blanks
between tokens are skipped. A text may hold every character but controls, and what an escape stands for: half
of a surrogate pair stands for nothing.
-/

namespace SqlShape.Json

/-- A token of a document. -/
inductive Token where
  | openArray
  | closeArray
  | openObject
  | closeObject
  | comma
  | colon
  | text (s : String)
  | word (value : Json)

namespace Token

/-- The value of a hexadecimal digit. -/
def hexValue? (c : Char) : Option Nat :=
  if c.isDigit then some (c.toNat - '0'.toNat)
  else if 'a' ≤ c ∧ c ≤ 'f' then some (c.toNat - 'a'.toNat + 10)
  else if 'A' ≤ c ∧ c ≤ 'F' then some (c.toNat - 'A'.toNat + 10)
  else none

/-- The number of four hexadecimal digits. -/
def unit? (a b c d : Char) : Option Nat := do
  return ((← hexValue? a) * 16 + (← hexValue? b)) * 256 + ((← hexValue? c) * 16 + (← hexValue? d))

/-- The character that a letter behind a backslash stands for. -/
def simpleEscape? (c : Char) : Option Char :=
  match c with
  | '"' => some '"'
  | '\\' => some '\\'
  | '/' => some '/'
  | 'b' => some '\x08'
  | 'f' => some '\x0c'
  | 'n' => some '\n'
  | 'r' => some '\r'
  | 't' => some '\t'
  | _ => none

/-- A leading half of a surrogate pair. -/
def isLeading (u : Nat) : Bool :=
  decide (0xD800 ≤ u ∧ u < 0xDC00)

/-- A trailing half of a surrogate pair. -/
def isTrailing (u : Nat) : Bool :=
  decide (0xDC00 ≤ u ∧ u < 0xE000)

/-- The character of a surrogate pair. -/
def pair (leading trailing : Nat) : Char :=
  Char.ofNat (0x10000 + (leading - 0xD800) * 0x400 + (trailing - 0xDC00))

/-- Reads the inside of a text up to its closing quote, which is dropped. The characters are gathered in
reverse. -/
def textBody (read : List Char) : List Char → Option (String × List Char)
  | [] => none
  | '"' :: rest => some (String.ofList read.reverse, rest)
  | '\\' :: 'u' :: a :: b :: c :: d :: rest =>
    match unit? a b c d with
    | none => none
    | some u =>
      if isLeading u then
        match rest with
        | '\\' :: 'u' :: a :: b :: c :: d :: rest =>
          match unit? a b c d with
          | none => none
          | some v => if isTrailing v then textBody (pair u v :: read) rest else none
        | _ => none
      else if isTrailing u then none
      else textBody (Char.ofNat u :: read) rest
  | '\\' :: c :: rest =>
    match simpleEscape? c with
    | none => none
    | some e => textBody (e :: read) rest
  | c :: rest => if c.toNat < 32 ∨ c = '\\' then none else textBody (c :: read) rest

/-- What is left behind a text is shorter than the text with its inside. -/
theorem length_of_textBody {read cs : List Char} {s : String} {rest : List Char}
    (h : textBody read cs = some (s, rest)) : rest.length < cs.length := by
  fun_induction textBody read cs <;> simp_all <;> omega

/-! ## Words -/

/-- The sign, the digits before and behind the point, and the exponent of a written number. -/
structure Parts where
  negative : Bool
  whole : List Char
  fraction : Option (List Char)
  exponent : Option Int

/-- The number that decimal digits denote. -/
def natOfDigits (cs : List Char) : Nat :=
  cs.foldl (fun n c => n * 10 + (c.toNat - '0'.toNat)) 0

/-- Digits before the point: no leading zero but a zero alone. -/
def isWhole (cs : List Char) : Bool :=
  match cs with
  | [] => false
  | ['0'] => true
  | c :: _ => c != '0'

/-- Reads an exponent behind its mark. -/
def exponent? (cs : List Char) : Option Int :=
  let (negative, digits) := match cs with
    | '+' :: rest => (false, rest)
    | '-' :: rest => (true, rest)
    | rest => (false, rest)
  if digits.isEmpty || !digits.all Char.isDigit then none
  else some (if negative then -(natOfDigits digits : Int) else natOfDigits digits)

/-- Reads what follows the digits before the point. -/
def tail? (cs : List Char) : Option (Option (List Char) × Option Int) :=
  match cs with
  | [] => some (none, none)
  | '.' :: rest =>
    let digits := rest.takeWhile Char.isDigit
    if digits.isEmpty then none
    else
      match rest.dropWhile Char.isDigit with
      | [] => some (some digits, none)
      | c :: rest => if c = 'e' ∨ c = 'E' then (exponent? rest).map fun e => (some digits, some e) else none
  | c :: rest => if c = 'e' ∨ c = 'E' then (exponent? rest).map fun e => (none, some e) else none

/-- Reads a written number. -/
def parts? (cs : List Char) : Option Parts :=
  let (negative, cs) := match cs with
    | '-' :: rest => (true, rest)
    | rest => (false, rest)
  let whole := cs.takeWhile Char.isDigit
  if isWhole whole then
    (tail? (cs.dropWhile Char.isDigit)).map fun (fraction, exponent) => ⟨negative, whole, fraction, exponent⟩
  else none

/-- The number of its parts. What has neither point nor exponent is an integer where 64 bits hold it; a
negative zero is a double. A number beyond the doubles is none. -/
def number? (p : Parts) : Option Json :=
  let digits := natOfDigits (p.whole ++ p.fraction.getD [])
  let exponent := p.exponent.getD 0 - (p.fraction.getD []).length
  let value := Double.ofDecimal p.negative digits exponent
  let double := if value.isFinite then some (double value) else none
  if p.fraction.isSome || p.exponent.isSome then double
  else if p.negative then
    if 0 < digits ∧ Int64.minValue.toInt ≤ -(digits : Int) then some (integer (-(digits : Int))) else double
  else if digits < UInt64.size then some (integer digits)
  else double

/-- The characters of words. -/
def isWordChar (c : Char) : Bool :=
  c.isAlphanum || c == '-' || c == '+' || c == '.'

/-- The value of a word. -/
def word? (cs : List Char) : Option Json :=
  match cs with
  | ['t', 'r', 'u', 'e'] => some (bool true)
  | ['f', 'a', 'l', 's', 'e'] => some (bool false)
  | ['n', 'u', 'l', 'l'] => some null
  | _ => (parts? cs).bind number?

/-- The token of a single character. -/
def punctuation? (c : Char) : Option Token :=
  match c with
  | '[' => some openArray
  | ']' => some closeArray
  | '\x7b' => some openObject
  | '\x7d' => some closeObject
  | ',' => some comma
  | ':' => some colon
  | _ => none

/-- The blanks between tokens. -/
def isSpace (c : Char) : Bool :=
  c == ' ' || c == '\n' || c == '\t' || c == '\r'

/-- The tokens of a text, gathered in reverse. -/
def tokens? (found : List Token) (cs : List Char) : Option (List Token) :=
  match cs with
  | [] => some found.reverse
  | c :: rest =>
    if isSpace c then tokens? found rest
    else if c = '"' then
      match h : textBody [] rest with
      | none => none
      | some (s, rest') =>
        have := length_of_textBody h
        tokens? (text s :: found) rest'
    else
      match punctuation? c with
      | some t => tokens? (t :: found) rest
      | none =>
        if isWordChar c then
          match word? (c :: rest.takeWhile isWordChar) with
          | none => none
          | some value =>
            have : (rest.dropWhile isWordChar).length ≤ rest.length := (List.dropWhile_suffix _).length_le
            tokens? (word value :: found) (rest.dropWhile isWordChar)
        else none
termination_by cs.length

end Token

end SqlShape.Json
