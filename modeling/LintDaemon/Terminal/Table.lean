import LintDaemon.Number.Rounding
import LintDaemon.Terminal.Screen

/-!
# Tables

A table has a title, columns with headers, and rows of marked-up texts. Columns that have no width
of their own are as wide as what they hold; where there is not enough room they give way first,
then all columns do.

* `Table.columnWidths`: the widths of the columns.
* `Table.lines`: the lines of a table.
* `Screen.showTable`: a table as it is written.

Only what the two tables of section 8.3 of the specification use is here: a title above, one line of
headers, a box around and between the columns, cells that wrap. Captions, footers, sections, spans
and other boxes are left out.
-/

namespace LintDaemon.Terminal

open LintDaemon.Text

/-- A column of a table. -/
structure Column where
  /-- The header. -/
  header : List Char
  /-- How cells are placed. -/
  alignment : Alignment
  /-- The width without the margins, if it does not depend on what the column holds. -/
  width : Option Nat
  /-- The style of the cells below the header. -/
  style : Style
  deriving DecidableEq, Repr

/-- A table. -/
structure Table where
  /-- The title, if there is one. -/
  title : Option (List Char)
  /-- The columns. -/
  columns : List Column
  /-- The rows, each with a cell for each column. -/
  rows : List (List (List Char))
  deriving DecidableEq, Repr

/-! ## Sharing room -/

/-- What one column can give way: whether it takes part, the most it can give, and its width. -/
structure Share where
  /-- Whether it gives way. -/
  takesPart : Bool
  /-- The most it can give. -/
  most : Nat
  /-- Its width. -/
  width : Nat
  deriving DecidableEq, Repr

/-- Widths that give way by an excess, shared among as many columns as take part. -/
def reduceBy (excess parts : Nat) : List Share → List Nat
  | [] => []
  | s :: rest =>
    if s.takesPart && 0 < s.most && 0 < parts then
      let given := min s.most (Number.roundDiv excess parts)
      (s.width - given) :: reduceBy (excess - given) (parts - 1) rest
    else s.width :: reduceBy excess parts rest

/-- Widths that give way by an excess, each by about the same. -/
def reduce (excess : Nat) (shares : List Share) : List Nat :=
  reduceBy excess (shares.filter fun s => s.takesPart && 0 < s.most).length shares

/-- The columns that give way: the widest of those that may. -/
def widest (widths : List (Nat × Bool)) : Nat :=
  ((widths.filter (·.2)).map (·.1)).foldl max 0

/-- The width of the next widest column that may give way. -/
def nextWidest (widths : List (Nat × Bool)) : Nat :=
  ((widths.filter fun (w, may) => may && w != widest widths).map (·.1)).foldl max 0

/-- Widths of which the widest that may give way are brought down to the next widest, again and
again, until they fit or cannot give way any more; at most `rounds` times. -/
def collapse (room : Nat) : Nat → List (Nat × Bool) → List (Nat × Bool)
  | 0, widths => widths
  | rounds + 1, widths =>
    let total := totalCells (widths.map (·.1))
    let top := widest widths
    let step := top - nextWidest widths
    if total ≤ room ∨ step = 0 then widths
    else
      let most := min (total - room) step
      let shares := widths.map fun (w, may) => Share.mk (may && w == top) most w
      collapse room rounds ((reduce (total - room) shares).zip (widths.map (·.2)))

namespace Table

/-! ## Widths -/

/-- The cells at both sides of what a column holds. -/
def margins : Nat := 2

/-- The room that a text takes: its longest line. -/
def textWidth (s : StyledText) : Nat :=
  ((Text.lines s.chars).map cellCount).foldl max 0

/-- The room that a cell takes with its margins, out of some room. -/
def cellWidth (room : Nat) (cell : List Char) : Except Markup.Error Nat :=
  if room ≤ margins then .ok room
  else (Markup.read [] cell).map fun text => min room (textWidth text + margins)

/-- The room that a column takes, out of some room. -/
def columnWidth (t : Table) (room index : Nat) (column : Column) : Except Markup.Error Nat :=
  if room = 0 then .ok 0
  else
    match column.width with
    | some width => .ok (min room (width + margins))
    | none => do
      let cells := column.header :: t.rows.filterMap (·[index]?)
      let widths ← cells.mapM (cellWidth room)
      return widths.foldl max 0

/-- The room that all columns take, each out of a room of its own. -/
def columnWidthsIn (t : Table) (rooms : List Nat) : Except Markup.Error (List Nat) :=
  ((t.columns.zip rooms).zipIdx).mapM fun ((column, room), index) =>
    t.columnWidth room index column

/-- The room that the lines of a table take. -/
def borders (t : Table) : Nat := t.columns.length + 1

/-- The widths of the columns, with their margins, in some room. -/
def columnWidths (t : Table) (room : Nat) : Except Markup.Error (List Nat) := do
  let wanted ← t.columnWidthsIn (t.columns.map fun _ => room)
  let widths := wanted.map (max 1)
  if totalCells widths ≤ room then return widths
  else
    let mayGive := t.columns.map (·.width.isNone)
    let collapsed := (collapse room (widths.length + 1) (widths.zip mayGive)).map (·.1)
    let reduced :=
      if totalCells collapsed ≤ room then collapsed
      else reduce (totalCells collapsed - room) (collapsed.map fun w => ⟨true, w, w⟩)
    t.columnWidthsIn reduced

/-! ## Lines -/

/-- A segment without style. -/
def bare (s : List Char) : Segment := ⟨s, Style.plain⟩

/-- The lines of a cell of a width, in a style that lies below its own. -/
def cellLines (alignment : Alignment) (style : Style) (width : Nat) (cell : List Char) :
    Except Markup.Error (List Line) :=
  if width ≤ margins then .ok []
  else do
    let text ← Markup.read [] cell
    let inner := width - margins
    let lines ← (text.wrap inner .ellipsis alignment).mapM fun line =>
      line.segments.mapError .number
    let side := bare [' ']
    return lines.map fun line =>
      Line.shape style width
        ((side :: Line.shape Style.plain inner line ++ [side]).map fun s =>
          { s with style := s.style.onTop style })

/-- The lines of a cell, with empty ones up to a height: above it for a header, in its style. -/
def padLines (isHeader : Bool) (style : Style) (width height : Nat) (cell : List Line) :
    List Line :=
  let missing := List.replicate (height - cell.length) [Segment.mk (blanks width) style]
  if isHeader then missing ++ cell else cell ++ missing

/-- The lines of cells side by side, with a line between any two of them. -/
def beside (edge divider : Char) (cells : List (List Line)) (height : Nat) : List Line :=
  (List.range height).map fun n =>
    let parts := cells.map fun cell => cell[n]?.getD []
    bare [edge] :: (parts.intersperse [bare [divider]]).flatten ++ [bare [edge]]

/-- A row of a table: its cells and their styles, with the widths of the columns. -/
def rowLines (t : Table) (widths : List Nat) (isHeader : Bool) (row : List (List Char)) :
    Except Markup.Error (List Line) := do
  let styleOf (column : Column) : Style :=
    if isHeader then Style.ofAttribute .bold else column.style
  let cells ← ((t.columns.zip widths).zip row).mapM fun ((column, width), cell) =>
    cellLines column.alignment (styleOf column) width cell
  let height := (cells.map List.length).foldl max 0
  let padded := ((t.columns.zip widths).zip cells).map fun ((column, width), cell) =>
    let shaped := padLines isHeader (styleOf column) width height cell
    padLines false Style.plain width 1 (shaped.map (Line.shape Style.plain width))
  let (edge, divider) := if isHeader then ('┃', '┃') else ('│', '│')
  return beside edge divider padded (max 1 height)

/-- A line across a table: its ends, what it is made of, and what stands at the columns. -/
def ruler (left rule divider right : Char) (widths : List Nat) : Line :=
  let parts := widths.map fun w => List.replicate w rule
  [bare (left :: (parts.intersperse [divider]).flatten ++ [right])]

/-- The name of the style of titles. -/
def titleStyle : List Char := "table.title".toList

/-- The title of a table, in the middle above it. -/
def titleLines (t : Table) (width : Nat) : Except Markup.Error (List Line) :=
  match t.title with
  | none => .ok []
  | some title => do
    let text ← Markup.read titleStyle title
    (text.wrap width .fold .center).mapM fun line => line.segments.mapError .number

/-- The lines of a table on a screen of a width. -/
def lines (t : Table) (width : Nat) : Except Markup.Error (List Line) := do
  let widths ← t.columnWidths (width - t.borders)
  let title ← t.titleLines (totalCells widths + t.borders)
  let header ← t.rowLines widths true (t.columns.map (·.header))
  let rows ← t.rows.mapM (t.rowLines widths false)
  return title ++ [ruler '┏' '━' '┳' '┓' widths] ++ header ++ [ruler '┡' '━' '╇' '┩' widths] ++
    rows.flatten ++ [ruler '└' '─' '┴' '┘' widths]

end Table

/-- A table as it is written. Nothing can be shown on a screen without width. -/
def Screen.showTable (screen : Screen) (t : Table) : Except Markup.Error String :=
  if screen.width = 0 then .ok ""
  else (t.lines screen.width).map screen.showLines

end LintDaemon.Terminal
