import StorageSurvey.Text.Blank
import StorageSurvey.Text.Width

/-!
# Tables in aligned columns

A table is a header and rows of cells, laid out without borders.  Every column is as wide as its
widest line.  A cell is written with one space on each side and is filled up to the width of its
column; a cell of several lines makes its row higher.
-/

namespace StorageSurvey.Text

/-- A table to be laid out: every row has as many cells as the header. -/
structure Columns where
  header : List String
  rows : List (List String)

namespace Columns

/-- The lines of a cell. -/
def cellLines (cell : String) : List (List Char) :=
  lines cell.toList

/-- The width of the widest line of a cell. -/
def cellWidth (cell : String) : Int :=
  ((cellLines cell).map width).foldl max 0

/-- The widths of two lists of columns, each column as wide as the wider. -/
def widen : List Int → List Int → List Int
  | [], widths => widths
  | widths, [] => widths
  | w :: ws, v :: vs => max w v :: widen ws vs

/-- The width of every column. -/
def widths (table : Columns) : List Int :=
  ((table.header :: table.rows).map (List.map cellWidth)).foldl widen []

/-- A line of a cell in a column: a space, the text filled up to the column's width, a space. -/
def paddedCell (columnWidth : Int) (text : List Char) : List Char :=
  ' ' :: text ++ List.replicate (columnWidth - width text).toNat ' ' ++ [' ']

/-- The lines of a row; cells with fewer lines are blank in the others. -/
def rowLines (columnWidths : List Int) (row : List String) : List (List Char) :=
  let cells := row.map cellLines
  let height := (cells.map List.length).foldl max 0
  (List.range height).map fun line =>
    (List.zipWith (fun columnWidth cell => paddedCell columnWidth (cell.getD line []))
      columnWidths cells).flatten

/-- The table as text, its lines parted by line feeds. -/
def text (table : Columns) : String :=
  let all := (table.header :: table.rows).flatMap (rowLines table.widths)
  String.ofList (List.intercalate ['\n'] all)

end Columns

end StorageSurvey.Text
