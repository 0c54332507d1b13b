import MapQuery.Screen.Markup

/-!
# Tables

Tables drawn with boxes: a header between heavy lines, and rows below it. A column is as wide as
what is widest in it. A cell of several lines makes its row as high; a line that does not fit ends
in an ellipsis.
-/

namespace MapQuery.Screen

open MapQuery.Text

/-- A column of a table. -/
structure Column where
  title : Rough
  alignRight : Bool := false

/-- A table; its cells hold what is shown. -/
structure Table where
  title : Option Rough := none
  columns : List Column
  rows : List (List (List CodePoint))

namespace Table

/-! ## 1. Widths -/

/-- A character that ends a line when the width of a text is taken. -/
def isLineEnd : CodePoint → Bool
  | .char c => c == '\n' || decide ('\x1c' ≤ c ∧ c ≤ '\x1e') || c == '\u0085' || c == '\u2028' ||
    c == '\u2029'
  | .half _ => false

/-- The width of a text: that of its widest line. -/
def textWidth (s : List CodePoint) : Nat :=
  ((s.splitOnP isLineEnd).map cellCount).foldl max 0

/-- The cells of a column, its title the first. -/
def columnCells (t : Table) (i : Nat) (c : Column) : List (List CodePoint) :=
  c.title.points :: t.rows.map fun row => row[i]?.getD []

/-- The width of a column. -/
def columnWidth (t : Table) (i : Nat) (c : Column) : Nat :=
  ((t.columnCells i c).map textWidth).foldl max 0

/-- The columns with their widths. -/
def layout (t : Table) : List (Column × Nat) :=
  t.columns.mapIdx fun i c => (c, t.columnWidth i c)

/-! ## 2. Cells -/

/-- The start of a line that takes exactly so many columns; a space fills up half of a wide
    character. -/
def crop : Nat → List CodePoint → List CodePoint
  | n, [] => spaces n
  | n, c :: r => if codeWidth c ≤ n then c :: crop (n - codeWidth c) r else spaces n

/-- A line brought to a width. -/
def fit (alignRight : Bool) (width : Nat) (line : List CodePoint) : List CodePoint :=
  let n := cellCount line
  if n ≤ width then
    let gap := spaces (width - n)
    if alignRight then gap ++ line else line ++ gap
  else crop (width - 1) line ++ [.char '…']

/-- Passages between bars. -/
def between (bar : Char) (passages : List (List CodePoint)) : List CodePoint :=
  .char bar :: passages.flatMap fun p => spaces 1 ++ p ++ spaces 1 ++ [.char bar]

/-- A row, line by line. -/
def rowLines (bar : Char) (cols : List (Column × Nat)) (row : List (List CodePoint)) :
    List (List CodePoint) :=
  let cells := row.map lines
  let height := (cells.map List.length).foldl max 0
  (List.range height).map fun k =>
    between bar ((cols.zip cells).map fun ((c, width), ls) =>
      fit c.alignRight width (ls[k]?.getD []))

/-! ## 3. Tables -/

/-- The characters of a horizontal line. -/
structure Rule where
  left : Char
  fill : Char
  cross : Char
  right : Char

/-- Above the header. -/
def topRule : Rule := ⟨'┏', '━', '┳', '┓'⟩

/-- Below the header. -/
def headRule : Rule := ⟨'┡', '━', '╇', '┩'⟩

/-- Below the rows. -/
def bottomRule : Rule := ⟨'└', '─', '┴', '┘'⟩

/-- A horizontal line across the columns. -/
def Rule.draw (r : Rule) (cols : List (Column × Nat)) : List CodePoint :=
  (r.left :: [r.cross].intercalate (cols.map fun c => List.replicate (c.2 + 2) r.fill) ++
    [r.right]).map .char

/-- The title in the middle above a table of a width. -/
def titleLine (width : Nat) (title : Rough) : List CodePoint :=
  let gap := width - cellCount title.points
  spaces (gap / 2) ++ title.points ++ spaces (gap - gap / 2)

/-- A table, line by line. -/
def draw (t : Table) : List (List CodePoint) :=
  let cols := t.layout
  let top := topRule.draw cols
  (t.title.map (titleLine (cellCount top))).toList ++ [top] ++
    rowLines '┃' cols (t.columns.map fun c => c.title.points) ++ [headRule.draw cols] ++
    t.rows.flatMap (rowLines '│' cols) ++ [bottomRule.draw cols]

end Table

end MapQuery.Screen
