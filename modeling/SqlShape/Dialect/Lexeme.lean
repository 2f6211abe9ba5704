import SqlShape.Dialect.Basic

/-!
# Lexemes

A command is written as a list of lexemes. Identifiers, texts and bytes stand in it as what they are; quoting
is left to `Lexeme.chars`. All else, numbers and blanks included, is plain text without quotes. The text of a
command is the concatenation of its lexemes.
-/

namespace SqlShape

/-- A piece of a command. -/
inductive Lexeme where
  | plain (text : String)
  | identifier (name : String)
  | string (national : Bool) (text : String)
  | binary (bytes : List UInt8)
deriving DecidableEq, Repr

namespace Lexeme

/-- The apostrophe around text literals. -/
def textQuote : Char :=
  '\x27'

/-- A hexadecimal digit in upper case. -/
def hexDigit (n : Nat) : Char :=
  if n < 10 then Char.ofNat ('0'.toNat + n) else Char.ofNat ('A'.toNat + (n - 10))

/-- Two hexadecimal digits a byte. -/
def hexDigits (bytes : List UInt8) : List Char :=
  bytes.flatMap fun b => [hexDigit (b.toNat / 16), hexDigit (b.toNat % 16)]

/-- The characters of a lexeme. -/
def chars (d : Dialect) : Lexeme → List Char
  | plain text => text.toList
  | identifier name => (d.quoteIdentifier name).toList
  | string national text =>
    (if national then ['N'] else []) ++ Dialect.quoted textQuote textQuote text.toList
  | binary bytes =>
    match d with
    | .sqlServer => '0' :: 'x' :: hexDigits bytes
    | .sqlite => 'X' :: Dialect.quoted textQuote textQuote (hexDigits bytes)

/-- The text of lexemes in a row. -/
def text (d : Dialect) (lexemes : List Lexeme) : String :=
  String.ofList (lexemes.flatMap (chars d))

/-- Lexemes in a row, separated by commas. -/
def commaSeparated (parts : List (List Lexeme)) : List Lexeme :=
  [plain ", "].intercalate parts

end Lexeme

end SqlShape
