/-!
# Reading TOML: characters, blanks, texts and keys

A reader takes what it wants off the front of the remaining characters or fails. Loops are built by
`repeatStep`, which ends because each round must leave fewer characters.

A text is basic, with escapes between double quotes, or literal between apostrophes; both have a form over
several lines between tripled quotes. No text and no comment may hold a control character but the tab, and a
carriage return stands only before a line feed.
-/

namespace SqlShape.Toml

/-- Takes characters off the front, or fails. -/
abbrev Reader :=
  StateT (List Char) Option

/-- What a round of a loop yields: another round, or the outcome. -/
inductive Round (σ α : Type) where
  | again (state : σ)
  | done (outcome : α)

/-- Repeats a step. A round that leaves no fewer characters and asks for another fails. -/
def repeatStep {σ α : Type} (step : σ → Reader (Round σ α)) (state : σ) (cs : List Char) : Option (α × List Char) :=
  match step state cs with
  | none => none
  | some (.done outcome, rest) => some (outcome, rest)
  | some (.again state, rest) => if rest.length < cs.length then repeatStep step state rest else none
termination_by cs.length

namespace Reader

/-- The next character, left in place. -/
def peek : Reader (Option Char) := do
  return (← get).head?

/-- Takes the next character. -/
def next : Reader Char := do
  match ← get with
  | c :: rest => set rest; return c
  | [] => failure

/-- Takes a given text if it comes next, and says whether it did. -/
def takeText (text : List Char) : Reader Bool := do
  let cs ← get
  if text.isPrefixOf cs then
    set (cs.drop text.length)
    return true
  else return false

/-- Takes a given text, which must come next. -/
def expect (text : List Char) : Reader Unit := do
  if ← takeText text then return () else failure

/-- Takes characters as long as they satisfy a property. -/
def takeWhile (p : Char → Bool) : Reader (List Char) := do
  let cs ← get
  set (cs.dropWhile p)
  return cs.takeWhile p

end Reader

open Reader

/-! ## Blanks and comments -/

/-- A blank within a line. -/
def isBlank (c : Char) : Bool :=
  c == ' ' || c == '\t'

/-- A character that may stand in texts and comments. -/
def isPlain (c : Char) : Bool :=
  c == '\t' || (decide (32 ≤ c.toNat) && c.toNat != 127)

/-- Takes the blanks within a line. -/
def blanks : Reader Unit := do
  let _ ← takeWhile isBlank

/-- Takes a line break if one comes next. -/
def lineBreak : Reader Bool := do
  if ← takeText ['\n'] then return true
  takeText ['\r', '\n']

/-- Takes a comment if one comes next. -/
def comment : Reader Unit := do
  if ← takeText ['#'] then
    let _ ← takeWhile isPlain

/-- Takes what is left of a line: blanks, a comment, and the line break unless the text ends. -/
def lineEnd : Reader Unit := do
  blanks
  comment
  if ← lineBreak then return ()
  match ← peek with
  | none => return ()
  | some _ => failure

/-- Takes blanks, comments and line breaks. -/
def gap : Reader Unit :=
  repeatStep (fun () => do
    blanks
    comment
    if ← lineBreak then return .again () else return .done ()) ()

/-! ## Texts -/

/-- The value of a hexadecimal digit. -/
def hexValue? (c : Char) : Option Nat :=
  if c.isDigit then some (c.toNat - '0'.toNat)
  else if 'a' ≤ c ∧ c ≤ 'f' then some (c.toNat - 'a'.toNat + 10)
  else if 'A' ≤ c ∧ c ≤ 'F' then some (c.toNat - 'A'.toNat + 10)
  else none

/-- Takes a code point of so many hexadecimal digits. -/
def codePoint : Nat → Nat → Reader Char
  | 0, value => if h : value.isValidChar then return Char.ofNatAux value h else failure
  | digits + 1, value => do
    match hexValue? (← next) with
    | some d => codePoint digits (value * 16 + d)
    | none => failure

/-- Takes what follows a backslash. -/
def escape : Reader Char := do
  match ← next with
  | 'b' => return '\x08'
  | 't' => return '\t'
  | 'n' => return '\n'
  | 'f' => return '\x0c'
  | 'r' => return '\r'
  | 'e' => return '\x1b'
  | '"' => return '"'
  | '\\' => return '\\'
  | 'x' => codePoint 2 0
  | 'u' => codePoint 4 0
  | 'U' => codePoint 8 0
  | _ => failure

/-- The inside of a basic text on one line. -/
def basicBody : Reader String :=
  repeatStep (fun (read : List Char) => do
    match ← next with
    | '"' => return .done (String.ofList read.reverse)
    | '\\' => return .again ((← escape) :: read)
    | c => if isPlain c then return .again (c :: read) else failure) []

/-- The inside of a literal text on one line. -/
def literalBody : Reader String :=
  repeatStep (fun (read : List Char) => do
    match ← next with
    | '\x27' => return .done (String.ofList read.reverse)
    | c => if isPlain c then return .again (c :: read) else failure) []

/-- A backslash at the end of a line: takes the blanks and line breaks up to the next other character. -/
def lineContinuation : Reader Bool := do
  let cs ← get
  blanks
  if ← lineBreak then
    repeatStep (fun () => do
      blanks
      if ← lineBreak then return .again () else return .done ()) ()
    return true
  else
    set cs
    return false

/-- The quotes that end a text over several lines: three, after up to two that belong to the text. -/
def closingQuotes (quote : Char) : Reader (Option Nat) := do
  let count := ((← get).takeWhile (· == quote)).length
  if count < 3 then return none
  else if count ≤ 5 then
    set ((← get).drop count)
    return some (count - 3)
  else failure

/-- The inside of a text over several lines. A line break right behind the opening quotes is dropped. -/
def multilineBody (quote : Char) (escapes : Bool) : Reader String := do
  let _ ← lineBreak
  repeatStep (fun (read : List Char) => do
    match ← closingQuotes quote with
    | some extra => return .done (String.ofList (read.reverse ++ List.replicate extra quote))
    | none =>
      if ← takeText ['\n'] then return .again ('\n' :: read)
      if ← takeText ['\r', '\n'] then return .again ('\n' :: '\r' :: read)
      let c ← next
      if escapes && c == '\\' then
        if ← lineContinuation then return .again read
        return .again ((← escape) :: read)
      else if isPlain c then return .again (c :: read)
      else failure) []

/-- Takes a text of any form if one comes next. -/
def text? : Reader (Option String) := do
  if ← takeText ['"', '"', '"'] then some <$> multilineBody '"' true
  else if ← takeText ['\x27', '\x27', '\x27'] then some <$> multilineBody '\x27' false
  else if ← takeText ['"'] then some <$> basicBody
  else if ← takeText ['\x27'] then some <$> literalBody
  else return none

/-! ## Keys -/

/-- A character of a bare key. -/
def isBareKeyChar (c : Char) : Bool :=
  c.isAlphanum || c == '_' || c == '-'

/-- A part of a key: bare or a text on one line. -/
def keyPart : Reader String := do
  if ← takeText ['"'] then basicBody
  else if ← takeText ['\x27'] then literalBody
  else
    let cs ← takeWhile isBareKeyChar
    if cs.isEmpty then failure else return String.ofList cs

/-- A key: parts with dots between them, blanks around each. The last part is apart from those before it. -/
def key : Reader (List String × String) := do
  repeatStep (fun (path : List String) => do
    blanks
    let part ← keyPart
    blanks
    if ← takeText ['.'] then return .again (part :: path) else return .done (path.reverse, part)) []

end SqlShape.Toml
