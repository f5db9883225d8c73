import Retrace.Text.CellWidth
import Retrace.Text.Cluster
import Retrace.Text.Lines
import Retrace.Viewer.Style

/-!
# Screen

A screen is a grid of cells. A cell holds one cluster of characters; what is wider than a cell takes
the room of the cells after it too, of which the terminal shows the first as an empty one.

Lines are written into rows of a given width and boxes are built of rows, so what is drawn stays
where it belongs.
-/

namespace Retrace.Viewer

/-- One cell of the screen. -/
structure Cell where
  text : List Char := [' ']
  style : Style := {}
  deriving DecidableEq, Repr, Inhabited

/-- The cells of one row. -/
abbrev Row := List Cell

namespace Cell

/-- How many cells the cluster takes. -/
def width (cell : Cell) : Nat :=
  Text.cellWidth cell.text

/-- A cell on which nothing is written. -/
def ground (style : Style) : Cell := { style }

/-- The cell, and the ones behind it whose room it takes. A cluster without width is not drawn. -/
def spread (ground : Style) (cell : Cell) : Row :=
  if cell.width = 0 then []
  else
    { cell with style := cell.style.onto ground } ::
      List.replicate (cell.width - 1) (.ground ground)

end Cell

-- ---------------------------------------------------------------------------
-- Lines
-- ---------------------------------------------------------------------------

/-- The clusters of a line, each with its style. Line endings are left out. -/
def cellsOf (line : StyledLine) : Row :=
  line.flatMap fun span =>
    ((Text.clusters span.text.toList).filter (·.getLast? ≠ some '\n')).map fun cluster =>
      { text := cluster, style := span.style }

/-- The cells that fit into what is left of a row: a cell wider than the whole row is left out, and
the first that does not fit ends the row. -/
def fit (width used : Nat) : Row → Row
  | [] => []
  | cell :: rest =>
    if width < cell.width then fit width used rest
    else if width < used + cell.width then []
    else cell :: fit width (used + cell.width) rest

inductive Alignment where
  | left
  | right
  deriving DecidableEq, Repr

/-- A row with a line in it, cut at its right edge. -/
def Row.ofLine (ground : Style) (width : Nat) (alignment : Alignment) (line : StyledLine) : Row :=
  let written := (fit width 0 (cellsOf line)).flatMap (Cell.spread ground)
  let gap := List.replicate (width - written.length) (Cell.ground ground)
  match alignment with
  | .left => written ++ gap
  | .right => gap ++ written

-- ---------------------------------------------------------------------------
-- Titles
-- ---------------------------------------------------------------------------

namespace Row

/-- Empties `count` cells from a column on. -/
def erase (column : Nat) : Nat → Row → Row
  | 0, row => row
  | count + 1, row => erase (column + 1) count (row.set column (Cell.ground {}))

/-- Writes a cluster into the cell of a column, in place of its text. What is wider than a cell
empties the cells after it. -/
def write (column : Nat) (cluster : List Char) (row : Row) : Row :=
  Row.erase (column + 1) (Text.cellWidth cluster - 1)
    (row.modify column fun cell => { cell with text := cluster })

/-- Writes a cluster behind the text that the cell of a column has. -/
def attach (column : Nat) (cluster : List Char) (row : Row) : Row :=
  Row.erase (column + 1) (Text.cellWidth cluster - 1)
    (row.modify column fun cell => { cell with text := cell.text ++ cluster })

/-- Writes the clusters after the first one of a text that starts in column `start`, as long as
they end before column `room`. A cluster without width is added to the cell before it. Where a text
starts with such clusters, its first cell holds them and the first cluster with a width. -/
def writeOn (room start column : Nat) : List (List Char) → Row → Row
  | [], row => row
  | cluster :: rest, row =>
    let next := column + Text.cellWidth cluster
    if room < next then row
    else if column = start then writeOn room start next rest (row.attach column cluster)
    else if next = column then writeOn room start next rest (row.attach (column - 1) cluster)
    else writeOn room start next rest (row.write column cluster)

/-- Writes a text from a column on. -/
def writeText (room start : Nat) (text : List Char) (row : Row) : Row :=
  match Text.clusters text with
  | [] => row
  | cluster :: rest =>
    let next := start + Text.cellWidth cluster
    if room < next then row else writeOn room start next rest (row.write start cluster)

/-- Writes texts one after the other, each behind the room that the texts before it take as a whole.
A text without width is left out. -/
def writeTexts (room column : Nat) : List (List Char) → Row → Row
  | [], row => row
  | text :: rest, row =>
    let width := Text.cellWidth text
    if width = 0 then writeTexts room column rest row
    else if room ≤ column then row
    else writeTexts room (column + width) rest (row.writeText room column text)

/-- The cells that texts take together. -/
def widthOf (texts : List (List Char)) : Nat :=
  texts.foldl (fun width text => width + Text.cellWidth text) 0

/-- The line of a border, with a title on it. Line endings in the title are left out. -/
def ofTitle (style : Style) (width : Nat) (title : String) : Row :=
  let texts := Text.lines title.toList
  writeTexts (min (widthOf texts) width) 0 texts (List.replicate width { text := ['─'], style })

end Row

-- ---------------------------------------------------------------------------
-- Boxes
-- ---------------------------------------------------------------------------

/-- A box with a title in its upper border and lines inside. -/
structure Box where
  title : String
  border : Style
  lines : List StyledLine

namespace Box

/-- The rows of a box. If there is one row only, it is the upper border. -/
def rows (box : Box) (width height : Nat) : List Row :=
  let cell (c : Char) : Cell := { text := [c], style := box.border }
  let inner := width - 2
  let top := cell '┌' :: Row.ofTitle box.border inner box.title ++ [cell '┐']
  let side (row : Row) : Row := cell '│' :: row ++ [cell '│']
  let body := (box.lines ++ List.replicate (height - 2) []).take (height - 2)
  let bottom := cell '└' :: List.replicate inner (cell '─') ++ [cell '┘']
  let all := top :: body.map (fun line => side (Row.ofLine {} inner .left line)) ++ [bottom]
  (all.take height).map (·.take width)

end Box

-- ---------------------------------------------------------------------------
-- The whole screen
-- ---------------------------------------------------------------------------

/-- What the terminal shows of a row: the cell after a wide one is empty. -/
def Row.shown (row : Row) (afterWide : Bool := false) : Row :=
  match row with
  | [] => []
  | cell :: rest => (if afterWide then {} else cell) :: Row.shown rest (1 < cell.width)

/-- The text of a row. -/
def Row.text (row : Row) : String :=
  String.ofList (row.flatMap (·.text))

/-- The styles of a row, each with the number of neighbouring cells that have it. -/
def Row.styles : Row → List (Nat × Style)
  | [] => []
  | cell :: rest =>
    match Row.styles rest with
    | (n, style) :: runs =>
      if style = cell.style then (n + 1, style) :: runs
      else (1, cell.style) :: (n, style) :: runs
    | [] => [(1, cell.style)]

end Retrace.Viewer
