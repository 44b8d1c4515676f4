import SqlRender.Text.Width

/-!
# Command/Table — tables with round corners

A column is as wide as its widest line. A cell of several lines makes its row that high.
-/

namespace SqlRender.Table

/-- The lines of a cell. -/
def lines : List Char → List (List Char)
  | [] => [[]]
  | c :: rest =>
    if c = '\n' then [] :: lines rest
    else
      match lines rest with
      | [] => [[c]]
      | l :: ls => (c :: l) :: ls

/-- The lines of the cell with text `s`. -/
def cellLines (s : String) : List String := (lines s.toList).map String.ofList

/-- The columns that a cell takes. -/
def cellWidth (s : String) : Nat := (cellLines s).foldl (fun w l => max w (width l)) 0

/-- The widths of the columns. -/
def widths (rows : List (List String)) : List Nat :=
  rows.foldl (fun ws row => ws.zipWith max (row.map cellWidth))
    ((rows.headD []).map fun _ => 0)

/-- A line of a cell, filled up to the width of its column, with a blank at each side. -/
def pad (w : Nat) (line : String) : String :=
  " " ++ line ++ String.ofList (List.replicate (w - width line) ' ') ++ " "

/-- The lines of a row. -/
def rowLines (ws : List Nat) (row : List String) : List String :=
  let cells := row.map cellLines
  let height := cells.foldl (fun h ls => max h ls.length) 0
  (List.range height).map fun i =>
    "│" ++ "│".intercalate (ws.zipWith (fun w ls => pad w (ls.getD i "")) cells) ++ "│"

/-- A line across the table, with what stands at its left end, between columns and at its right
end. -/
def rule (left middle right : String) (ws : List Nat) : String :=
  left ++ middle.intercalate (ws.map fun w => String.ofList (List.replicate (w + 2) '─')) ++ right

/-- A table with a header. -/
def render (header : List String) (rows : List (List String)) : String :=
  let ws := widths (header :: rows)
  "\n".intercalate ([rule "╭" "┬" "╮" ws] ++ rowLines ws header ++ [rule "├" "┼" "┤" ws] ++
    rows.flatMap (rowLines ws) ++ [rule "╰" "┴" "╯" ws])

end SqlRender.Table
