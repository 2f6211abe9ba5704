import SqlShape.Toml.Lexical
import SqlShape.Toml.Scalar
import SqlShape.Toml.Table

/-!
# Reading TOML

A document is read line by line: headers open tables, and every other line adds a value to the table that is
open. The outcome is the JSON object of the same data. Arrays and tables within braces may stand inside each
other up to 80 deep.
-/

namespace SqlShape.Toml

open Reader

/-- A character of a word. -/
def isWordChar (c : Char) : Bool :=
  c.isAlphanum || c == '_' || c == '-' || c == '+' || c == '.' || c == ':'

/-- Takes a word. A date takes along a time behind a single blank. -/
def word : Reader (List Char) := do
  let cs ← takeWhile isWordChar
  match isDate cs, ← get with
  | true, ' ' :: c :: _ =>
    if c.isDigit then
      let _ ← next
      return cs ++ ' ' :: (← takeWhile isWordChar)
    else return cs
  | _, _ => return cs

/-- The items of an array behind its opening bracket. -/
def arrayItems (value : Reader Json) : Reader Json :=
  repeatStep (fun (items : List Json) => do
    gap
    if ← takeText [']'] then return .done (.arr items.reverse)
    let item ← value
    gap
    if ← takeText [','] then return .again (item :: items)
    expect [']']
    return .done (.arr (item :: items).reverse)) []

/-- The fields of a table within braces behind the opening brace. -/
def inlineFields (value : Reader Json) : Reader Json :=
  repeatStep (fun (t : Table) => do
    gap
    if ← takeText ['\x7d'] then return .done t.toJson
    let (path, last) ← key
    expect ['=']
    blanks
    let v ← value
    gap
    match t.addValue path last v with
    | none => failure
    | some t =>
      if ← takeText [','] then return .again t
      expect ['\x7d']
      return .done t.toJson) (Table.empty .header)

/-- A value with at most `depth` arrays and tables inside each other. -/
def value (depth : Nat) : Reader Json := do
  match ← text? with
  | some s => return .str s
  | none =>
    match depth with
    | 0 =>
      match scalar? (← word) with
      | some j => return j
      | none => failure
    | depth + 1 =>
      if ← takeText ['['] then arrayItems (value depth)
      else if ← takeText ['\x7b'] then inlineFields (value depth)
      else
        match scalar? (← word) with
        | some j => return j
        | none => failure

/-- The largest number of arrays and tables inside each other. -/
def maxDepth : Nat :=
  80

/-- A document in the making: its tables and the path of the header that is open. -/
structure Document where
  root : Table
  header : List String

/-- The document with other tables, if they could be changed. -/
def Document.update (d : Document) (root : Option Table) (header : List String) : Reader Document :=
  match root with
  | some root => return { d with root, header }
  | none => failure

/-- Takes a line: empty, a header, or a key with its value. -/
def line (d : Document) : Reader Document := do
  blanks
  match ← peek with
  | none | some '\n' | some '\r' | some '#' =>
    lineEnd
    return d
  | _ =>
    if ← takeText ['[', '['] then
      let (path, last) ← key
      expect [']', ']']
      lineEnd
      d.update (d.root.openRepeated path last) (path ++ [last])
    else if ← takeText ['['] then
      let (path, last) ← key
      expect [']']
      lineEnd
      d.update (d.root.openHeader path last) (path ++ [last])
    else
      let (path, last) ← key
      expect ['=']
      blanks
      let v ← value maxDepth
      lineEnd
      d.update (d.root.addUnder d.header path last v) d.header

/-- Takes the lines of a document. -/
def document : Reader Json :=
  repeatStep (fun (d : Document) => do
    match ← peek with
    | none => return .done d.root.toJson
    | some _ => return .again (← line d)) ⟨.empty .header, []⟩

/-- Reads a document. A byte order mark before it is skipped. -/
def parse? (source : String) : Option Json :=
  let cs := match source.toList with
    | '\ufeff' :: rest => rest
    | cs => cs
  (document.run cs).map Prod.fst

end SqlShape.Toml
