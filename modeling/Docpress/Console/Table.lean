import Docpress.Text.Basic
/-!
Tables on the console: a title in the middle, a heavy frame around the header and a light one around
the rows.
-/

namespace Docpress.Console

/-- A table of text. -/
structure Table where
  title : Text
  header : List Text
  rows : List (List Text)
deriving DecidableEq, Repr

/-- The lines of a frame: what comes first, between the columns and last, and what fills them. -/
structure Rule where
  first : Char
  middle : Char
  last : Char
  fill : Char
deriving DecidableEq, Repr

namespace Table

/-- The longer list of widths, each of them the greater of two. -/
def widest : List Nat → List Nat → List Nat
  | [], widths => widths
  | widths, [] => widths
  | a :: s, b :: t => max a b :: widest s t

/-- The widths of the columns, without the blanks around the cells. -/
def widths (t : Table) : List Nat :=
  (t.header :: t.rows).foldl (fun widths row => widest widths (row.map List.length)) []

/-- A cell with a blank on each side, filled up to the width of its column. -/
def cell (width : Nat) (s : Text) : Text :=
  ' ' :: s ++ List.replicate (width - s.length) ' ' ++ [' ']

/-- Cells with the lines of a frame around them. -/
def line (r : Rule) (cells : List Text) : Text :=
  r.first :: Text.join [r.middle] cells ++ [r.last, '\n']

/-- A line of a frame without cells. -/
def rule (r : Rule) (widths : List Nat) : Text :=
  line r (widths.map fun width => List.replicate (width + 2) r.fill)

/-- A row of cells. -/
def row (r : Rule) (widths : List Nat) (cells : List Text) : Text :=
  line r (List.zipWith cell widths cells)

/-- A text in the middle of a width, and rather to the left. -/
def centred (width : Nat) (s : Text) : Text :=
  let space := width - s.length
  List.replicate (space / 2) ' ' ++ s ++ List.replicate (space - space / 2) ' '

/-- The width of a table with its frame. -/
def frameWidth (widths : List Nat) : Nat :=
  widths.foldl (· + ·) 0 + 3 * widths.length + 1

/-- A table as lines. -/
def render (t : Table) : Text :=
  let widths := t.widths
  centred (frameWidth widths) t.title ++ ['\n'] ++
    rule ⟨'┏', '┳', '┓', '━'⟩ widths ++
    row ⟨'┃', '┃', '┃', ' '⟩ widths t.header ++
    rule ⟨'┡', '╇', '┩', '━'⟩ widths ++
    t.rows.flatMap (row ⟨'│', '│', '│', ' '⟩ widths) ++
    rule ⟨'└', '┴', '┘', '─'⟩ widths

end Table

end Docpress.Console
