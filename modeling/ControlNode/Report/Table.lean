import ControlNode.Text.Width

/-!
# Tables

A table has a header and rows of cells. Columns are as wide as their widest cell and one space on
each side, and cells start at the left. A cell of several lines makes its row as high.
-/

namespace ControlNode.Report

/-- Rows of cells below a header. -/
structure Table where
  header : List String
  rows : List (List String)

namespace Table

def cellLines (cell : String) : List String := cell.splitOn "\n"

def cellWidth (cell : String) : Nat := ((cellLines cell).map Text.width).foldl max 0

def widths (t : Table) : List Nat :=
  t.rows.foldl (fun widths row => List.zipWith max widths (row.map cellWidth))
    (t.header.map cellWidth)

/-- A rule across the table. -/
def rule (left fill cross right : String) (widths : List Nat) : String :=
  left ++ cross.intercalate (widths.map fun w => String.join (List.replicate (w + 2) fill)) ++
    right ++ "\n"

/-- A text with a space on each side, filled up to the width of its column. -/
def pad (width : Nat) (s : String) : String :=
  " " ++ s ++ String.ofList (List.replicate (width - Text.width s) ' ') ++ " "

def rowLines (widths : List Nat) (cells : List String) : String :=
  let columns := cells.map cellLines
  let height := (columns.map List.length).foldl max 0
  String.join ((List.range height).map fun i =>
    "│" ++ "┆".intercalate
      (List.zipWith (fun w column => pad w (column[i]?.getD "")) widths columns) ++ "│\n")

def render (t : Table) : String :=
  let w := t.widths
  rule "┌" "─" "┬" "┐" w ++ rowLines w t.header ++ rule "╞" "═" "╪" "╡" w ++
    (rule "├" "╌" "┼" "┤" w).intercalate (t.rows.map (rowLines w)) ++
    rule "└" "─" "┴" "┘" w

end Table

end ControlNode.Report
