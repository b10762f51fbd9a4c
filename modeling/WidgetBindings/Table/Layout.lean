import WidgetBindings.Table.Wrap
import WidgetBindings.Text.Bytes

/-!
# Tables in a terminal

A table has a header and rows of cells, and may be 120 columns wide. Columns that need no more than
an even share of the room get what they need; columns that can do with less once their lines are
wrapped get that; the others share what is left.
-/

namespace WidgetBindings

/-- The title of a column, and whether its cells are centred. -/
structure Table.Column where
  title : String
  centred : Bool := false

/-- A table: its columns and its rows. A row has one cell for each column. -/
structure Table where
  columns : List Table.Column
  rows : List (List String)

namespace Table

/-- The width of a table, frame included. -/
def fullWidth : Nat := 120

/-- The lines of a cell as it was given. -/
def cellLines (cell : String) : List (List Char) := Text.splitOn '\n' cell.toList

/-- The cells of a column with their lines, its title first. -/
def columnCells (table : Table) (place : Nat) : List (List (List Char)) :=
  ((table.columns.map Column.title :: table.rows).map fun row => cellLines (row.getD place ""))

/-- The width that a column needs to show every line on one line. -/
def neededWidth (cells : List (List (List Char))) : Nat :=
  max 1 ((cells.flatten.map Text.width).foldl max 0)

/-- The length in bytes of the longest line of a column whose lines are wrapped. -/
def wrappedLength (width : Nat) (cells : List (List (List Char))) : Nat :=
  ((cells.flatten.flatMap (wrap width)).map fun line =>
    (String.ofList line).utf8ByteSize).foldl max 0

/-- A column on the way to its width. -/
structure Pending where
  cells : List (List (List Char))
  width : Option Nat

/-- How much room is left, and for how many columns. -/
structure Room where
  left : Nat
  unsettled : Nat

def Room.share (room : Room) : Nat := room.left / room.unsettled

/-- Gives widths to columns by `choose`, which is told the even share at that moment. -/
def settleOnce (choose : Nat → List (List (List Char)) → Option Nat) :
    Room → List Pending → Room × List Pending
  | room, [] => (room, [])
  | room, column :: rest =>
    match column.width, choose room.share column.cells with
    | none, some width =>
      let (last, rest) := settleOnce choose ⟨room.left - width, room.unsettled - 1⟩ rest
      (last, ⟨column.cells, some width⟩ :: rest)
    | _, _ =>
      let (last, rest) := settleOnce choose room rest
      (last, column :: rest)

/-- Repeats `settleOnce` until no column gets a width, at most `fuel` times. -/
def settleAll (choose : Nat → List (List (List Char)) → Option Nat) :
    (fuel : Nat) → Room → List Pending → Room × List Pending
  | 0, room, columns => (room, columns)
  | fuel + 1, room, columns =>
    let (room', columns) := settleOnce choose room columns
    if room'.unsettled = room.unsettled ∨ room'.unsettled = 0 then (room', columns)
    else settleAll choose fuel room' columns

/-- The width that a column needs, if it is within the share. -/
def needed? (share : Nat) (cells : List (List (List Char))) : Option Nat :=
  if neededWidth cells ≤ share then some (neededWidth cells) else none

/-- The width that a column needs once its lines are wrapped to the share, if that saves three
columns or more. -/
def wrapped? (share : Nat) (cells : List (List (List Char))) : Option Nat :=
  if wrappedLength share cells + 3 ≤ share then some (wrappedLength share cells) else none

/-- The widths of columns, those without one being given the share, and one more as long as `spare`
lasts. -/
def shareOut (share : Nat) : (spare : Nat) → List Pending → List Nat
  | _, [] => []
  | spare, column :: rest =>
    match column.width with
    | some width => width :: shareOut share spare rest
    | none => (if spare = 0 then share else share + 1) :: shareOut share (spare - 1) rest

/-- The widths of the columns of a table. -/
def widths (table : Table) : List Nat :=
  let n := table.columns.length
  let columns := (List.range n).map fun place => Pending.mk (table.columnCells place) none
  let (room, columns) := settleAll needed? (n + 1) ⟨fullWidth - (n + 1) - 2 * n, n⟩ columns
  let (room, columns) :=
    if room.unsettled = 0 then (room, columns) else settleAll wrapped? (n + 1) room columns
  shareOut room.share (room.left % room.unsettled) columns

/-- A line filled up to the width of its column. -/
def align (centred : Bool) (width : Nat) (line : List Char) : List Char :=
  let space := width - Text.width line
  let left := if centred then (space + 1) / 2 else 0
  List.replicate left ' ' ++ line ++ List.replicate (space - left) ' '

def rowLines (layout : List (Nat × Bool)) (row : List String) : List String :=
  let cells := layout.zip row |>.map fun (c, cell) => (c, (cellLines cell).flatMap (wrap c.1))
  let height := (cells.map fun c => c.2.length).foldl max 0
  (List.range height).map fun i =>
    let parts := cells.map fun (c, lines) =>
      String.ofList (' ' :: align c.2 c.1 (lines.getD i []) ++ [' '])
    "│" ++ "┆".intercalate parts ++ "│"

/-- A line of the frame. -/
def frameLine (left fill between right : String) (layout : List (Nat × Bool)) : String :=
  let parts := layout.map fun c => String.join (List.replicate (c.1 + 2) fill)
  left ++ between.intercalate parts ++ right

def lines (table : Table) : List String :=
  let layout := table.widths.zip (table.columns.map Column.centred)
  frameLine "╭" "─" "┬" "╮" layout ::
    rowLines layout (table.columns.map Column.title) ++
    frameLine "╞" "═" "╪" "╡" layout ::
    table.rows.flatMap (rowLines layout) ++
    [frameLine "╰" "─" "┴" "╯" layout]

def text (table : Table) : String := "\n".intercalate table.lines

end Table

end WidgetBindings
