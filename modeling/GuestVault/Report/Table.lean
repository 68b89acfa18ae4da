import GuestVault.Text.Blank
import GuestVault.Text.Width

/-!
# Tables

Tables of text with a head, drawn with lines. A cell may have several lines; a column is as wide as
its widest line.
-/

namespace GuestVault

open GuestVault.Text

/-- A head and rows, each with the same number of cells. -/
structure Table where
  head : List String
  rows : List (List String)
deriving Repr, DecidableEq

namespace Table

/-- The lines of a cell; an empty cell has one. -/
def cellLines (cell : String) : List String :=
  match lines cell with
  | [] => [""]
  | ls => ls

/-- The width of a cell. -/
def cellWidth (cell : String) : Nat :=
  ((cellLines cell).map width).foldl max 0

/-- The widths of the columns. -/
def widths (t : Table) : List Nat :=
  t.rows.foldl (fun ws row => List.zipWith max ws (row.map cellWidth)) (t.head.map cellWidth)

/-- A line between rows. -/
def rule (c : Char) (widths : List Nat) : String :=
  "+" ++ String.join (widths.map fun w => .ofList (List.replicate (w + 2) c) ++ "+") ++ "\n"

/-- A text with blanks up to a width. -/
def pad (w : Nat) (s : String) : String :=
  s ++ .ofList (List.replicate (w - width s) ' ')

/-- One line of a row. -/
def line (widths : List Nat) (texts : List String) : String :=
  "|" ++ String.join (List.zipWith (fun w s => " " ++ pad w s ++ " |") widths texts) ++ "\n"

/-- A row, as high as its highest cell. -/
def row (widths : List Nat) (cells : List String) : String :=
  let parts := cells.map cellLines
  let height := (parts.map List.length).foldl max 0
  String.join ((List.range height).map fun i =>
    line widths (parts.map fun ls => ls.getD i ""))

/-- The drawn table. -/
def render (t : Table) : String :=
  let ws := t.widths
  rule '-' ws ++ row ws t.head ++ rule '=' ws ++ (rule '-' ws).intercalate (t.rows.map (row ws)) ++
    rule '-' ws

end Table

end GuestVault
