import SqlShape.Double.Text
import SqlShape.Json.Basic

/-!
# Writing JSON

A document in one line without blanks, or over several lines with two blanks a level. Fields are written in the
order in which they stand. A number without a decimal form is null.
-/

namespace SqlShape.Json

/-- A hexadecimal digit in lower case. -/
def hexDigit (n : Nat) : Char :=
  if n < 10 then Char.ofNat ('0'.toNat + n) else Char.ofNat ('a'.toNat + (n - 10))

/-- A character inside a text. -/
def escaped (c : Char) : List Char :=
  if c = '"' then ['\\', '"']
  else if c = '\\' then ['\\', '\\']
  else if c = '\n' then ['\\', 'n']
  else if c = '\r' then ['\\', 'r']
  else if c = '\t' then ['\\', 't']
  else if c = '\x08' then ['\\', 'b']
  else if c = '\x0c' then ['\\', 'f']
  else if c.toNat < 32 then ['\\', 'u', '0', '0', hexDigit (c.toNat / 16), hexDigit (c.toNat % 16)]
  else [c]

/-- A text between quotes. -/
def quotedText (s : String) : String :=
  String.ofList ('"' :: (s.toList.flatMap escaped ++ ['"']))

/-- A double. -/
def doubleText (d : Double) : String :=
  if d.isFinite then d.jsonText else "null"

mutual
/-- A document in one line. -/
def compact : Json → String
  | null => "null"
  | bool b => if b then "true" else "false"
  | integer i => toString i
  | double d => doubleText d
  | str s => quotedText s
  | arr items => "[" ++ ",".intercalate (compactItems items) ++ "]"
  | obj fields => "\x7b" ++ ",".intercalate (compactFields fields) ++ "\x7d"
/-- The items of an array. -/
def compactItems : List Json → List String
  | [] => []
  | j :: js => compact j :: compactItems js
/-- The fields of an object. -/
def compactFields : List (String × Json) → List String
  | [] => []
  | (k, j) :: rest => (quotedText k ++ ":" ++ compact j) :: compactFields rest
end

/-- A line break and the blanks of a level. -/
def lineBreak (level : Nat) : String :=
  String.ofList ('\n' :: List.replicate (2 * level) ' ')

/-- The parts of a container, each on its own line. -/
def block (opening closing : String) (level : Nat) (parts : List String) : String :=
  if parts.isEmpty then opening ++ closing
  else
    opening ++ lineBreak (level + 1) ++ ("," ++ lineBreak (level + 1)).intercalate parts
      ++ lineBreak level ++ closing

mutual
/-- A document over several lines, inside `level` containers. -/
def prettyAt (level : Nat) : Json → String
  | arr items => block "[" "]" level (prettyItems (level + 1) items)
  | obj fields => block "\x7b" "\x7d" level (prettyFields (level + 1) fields)
  | null => "null"
  | bool b => if b then "true" else "false"
  | integer i => toString i
  | double d => doubleText d
  | str s => quotedText s
/-- The items of an array. -/
def prettyItems (level : Nat) : List Json → List String
  | [] => []
  | j :: js => prettyAt level j :: prettyItems level js
/-- The fields of an object. -/
def prettyFields (level : Nat) : List (String × Json) → List String
  | [] => []
  | (k, j) :: rest => (quotedText k ++ ": " ++ prettyAt level j) :: prettyFields level rest
end

/-- A document over several lines. -/
def pretty (j : Json) : String :=
  prettyAt 0 j

end SqlShape.Json
