import SqlShape.Text.Width

/-!
# Tables in text

A table with a header, drawn in box characters. A column is as wide as its widest line, with a blank on each
side; a cell of several lines makes its row as high.
-/

namespace SqlShape.Cli

/-- The characters of a horizontal line: at the left, along a column, between columns, at the right. -/
structure Rule where
  left : String
  along : Char
  between : String
  right : String

/-- The line above the table. -/
def Rule.top : Rule :=
  ⟨"┌", '─', "┬", "┐"⟩

/-- The line below the header. -/
def Rule.header : Rule :=
  ⟨"╞", '═', "╪", "╡"⟩

/-- The line between rows. -/
def Rule.row : Rule :=
  ⟨"├", '╌', "┼", "┤"⟩

/-- The line below the table. -/
def Rule.bottom : Rule :=
  ⟨"└", '─', "┴", "┘"⟩

/-- A horizontal line over columns of given widths. -/
def Rule.draw (r : Rule) (widths : List Nat) : String :=
  r.left ++ r.between.intercalate (widths.map fun w => String.ofList (List.replicate (w + 2) r.along)) ++ r.right

/-- The lines of a cell. -/
def cellLines (cell : String) : List String :=
  cell.splitOn "\n"

/-- The width of a cell. -/
def cellWidth (cell : String) : Nat :=
  ((cellLines cell).map Text.width).foldl max 0

/-- A line of a cell, filled with blanks. -/
def padded (width : Nat) (line : String) : String :=
  line ++ String.ofList (List.replicate (width - Text.width line) ' ')

/-- The lines of a row of cells in columns of given widths. -/
def rowLines (widths : List Nat) (cells : List String) : List String :=
  let cells := cells.map cellLines
  let height := (cells.map List.length).foldl max 0
  (List.range height).map fun i =>
    let parts := (cells.zip widths).map fun (lines, w) => padded w (lines[i]?.getD "")
    "│ " ++ " ┆ ".intercalate parts ++ " │"

/-- The widths of the columns. -/
def columnWidths (header : List String) (rows : List (List String)) : List Nat :=
  rows.foldl (fun widths row => (widths.zip (row.map cellWidth)).map fun (a, b) => max a b) (header.map cellWidth)

/-- The rows with lines between them. -/
def bodyLines (widths : List Nat) : List (List String) → List String
  | [] => []
  | [row] => rowLines widths row
  | row :: rest => rowLines widths row ++ Rule.row.draw widths :: bodyLines widths rest

/-- A table. -/
def drawTable (header : List String) (rows : List (List String)) : String :=
  let widths := columnWidths header rows
  "\n".intercalate
    (Rule.top.draw widths :: rowLines widths header ++ Rule.header.draw widths :: bodyLines widths rows
      ++ [Rule.bottom.draw widths])

end SqlShape.Cli
