import RegexHighlight.Text.Width

/-!
# Aligned columns

A table is a list of rows of cells. Every cell but the last of its row is aligned: a column's
width is the widest of its cells over the block of consecutive rows that have that column
before their last cell, measured in display columns, and two spaces separate it from the next
column. Cells are aligned to the left, or to the right; the last cell of a row is written as
is.
-/

namespace RegexHighlight.Columns

/-- How the cells of aligned columns sit in their width. -/
inductive Alignment
  | left
  | right
deriving DecidableEq, Repr

/-- The spaces between a column and the next. -/
def padding : Nat := 2

/-- The narrowest a column is. -/
def minWidth : Nat := 2

/-- Whether a row has column `j` before its last cell. -/
def hasColumn (row : List String) (j : Nat) : Bool := j + 1 < row.length

/-- The maximal runs of consecutive rows that have column `j`. -/
def blocks (rows : Array (List String)) (j : Nat) : List (List Nat) :=
  let has := fun (k : Nat) => hasColumn (rows[k]?.getD []) j
  ((List.range rows.size).splitBy fun a b => has a == has b).filter fun run => run.all has

/-- The width of every aligned cell, by row and column: the widest cell of its block. -/
def widths (rows : Array (List String)) : Array (Array Nat) :=
  let measured := rows.map fun row => (row.map Text.displayWidth).toArray
  let columns := rows.foldl (fun m r => max m r.length) 0
  let start := rows.map fun _ => Array.replicate columns 0
  (List.range columns).foldl (fun acc j =>
    (blocks rows j).foldl (fun acc run =>
      let w := (run.map fun k => (measured[k]?.getD #[])[j]?.getD 0).foldl max minWidth
      run.foldl (fun acc k => acc.modify k (·.set! j w)) acc) acc) start

/-- Spaces. -/
def spaces (n : Nat) : String := String.ofList (List.replicate n ' ')

/-- One row, with its aligned cells padded to the widths `ws`. -/
def renderRow (alignment : Alignment) (ws : Array Nat) (row : List String) : String :=
  String.join (row.zipIdx.map fun (cell, j) =>
    if hasColumn row j then
      let fill := spaces (ws[j]?.getD 0 - Text.displayWidth cell)
      match alignment with
      | .left => cell ++ fill ++ spaces padding
      | .right => fill ++ cell ++ spaces padding
    else cell)

/-- A table, one line per row. -/
def render (alignment : Alignment) (rows : List (List String)) : String :=
  let ws := widths rows.toArray
  String.join (rows.zipIdx.map fun (row, i) => renderRow alignment (ws[i]?.getD #[]) row ++ "\n")

end RegexHighlight.Columns
