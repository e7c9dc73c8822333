import Provisioning.Terminal.Style

/-!
# Tables

Tables with a frame. A column is as wide as the longest of its heading and cells, counted in
characters.

## Main definitions

* `Table`: headings and rows
* `Table.widths`: the widths of the columns
* `Table.lines`, `Table.text`: the table as text
-/

namespace Provisioning.Terminal

/-- A table. -/
structure Table where
  /-- The headings. -/
  headings : List String
  /-- The rows, the first on top. -/
  rows : List (List String) := []

namespace Table

/-- Widths that fit a row as well; cells without a column do not count. -/
def widen : List Nat → List String → List Nat
  | w :: widths, cell :: cells => max w cell.length :: widen widths cells
  | widths, _ => widths

/-- The widths of the columns. -/
def widths (t : Table) : List Nat := t.rows.foldl widen (t.headings.map String.length)

/-- Cells with their frame, each filled up to the width of its column. -/
def cellsText (fill : Nat → String → String) : List Nat → List String → String
  | _, [] => ""
  | w :: widths, cell :: cells => " " ++ fill w cell ++ " │" ++ cellsText fill widths cells
  | [], cell :: cells => " " ++ fill 0 cell ++ " │" ++ cellsText fill [] cells

/-- The line of a row. -/
def rowLine (widths : List Nat) (row : List String) : String := "│" ++ cellsText padded widths row

/-- The line of the headings. -/
def headingLine (styled : Bool) (widths : List Nat) (headings : List String) : String :=
  "│" ++ cellsText (paintPadded styled .strong) widths headings

/-- A line of the frame between two corners. -/
def frameLine (left crossing right : String) (widths : List Nat) : String :=
  let dashes (w : Nat) : String := Text.repeated (w + 2) '─'
  left ++ String.intercalate crossing (widths.map dashes) ++ right

/-- The lines of a table. -/
def lines (styled : Bool) (t : Table) : List String :=
  [frameLine "┌" "┬" "┐" t.widths, headingLine styled t.widths t.headings,
    frameLine "├" "┼" "┤" t.widths] ++
  t.rows.map (rowLine t.widths) ++ [frameLine "└" "┴" "┘" t.widths]

/-- A table as text. -/
def text (styled : Bool) (t : Table) : String :=
  String.join ((t.lines styled).map fun line => line ++ "\n")

end Table

end Provisioning.Terminal
