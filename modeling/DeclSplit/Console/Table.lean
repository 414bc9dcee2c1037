import DeclSplit.Console.Markup
import DeclSplit.Console.Wrap

/-!
# Tables on the console

A table has a title, a heading for each column, and rows.  Each column is as wide as its widest cell,
unless its width is given; tabs do not count there, so that not all of a cell may fit.  A table that is
too wide for the console takes from its widest columns.

* `Console.Column` — the heading of a column and how its cells are set;
* `Console.tableLines` — the lines of a table.
-/

namespace DeclSplit.Console

open Text (width)

/-- On which side of a column its cells are set. -/
inductive Side where
  | left
  | right
  deriving DecidableEq, Repr

/-- A column of a table. -/
structure Column where
  heading : List Char
  side : Side
  /-- The width of the column, if its cells do not decide it. -/
  size : Option Nat

/-- A line with blanks after it up to the given width.  A joiner at the end of the line takes the cell of
a blank away. -/
def padEnd (size : Nat) (line : List Char) : List Char :=
  let padded := line ++ List.replicate (size - width line) ' '
  padded ++ List.replicate (size - width padded) ' '

/-- A line in a column of the given width. -/
def Column.align (c : Column) (size : Nat) (line : List Char) : List Char :=
  match c.side with
  | .left => padEnd size line
  | .right =>
    let line := Text.trimEnd line
    List.replicate (size - width line) ' ' ++ line

/-- The lines of a cell in a column of the given width. -/
def Column.lines (c : Column) (size : Nat) (cell : Marked) :
    Except MarkupError (List (List Char)) := do
  return (← cell.linesBy (wrap .ellipsis size)).map (c.align size)

/-- The width of the widest line of a cell. -/
def cellSize (cell : List Char) : Nat :=
  ((Text.splitLines cell).map width).foldl max 0

/-! ### Widths of columns -/

/-- A total in equal parts, rounded to the nearest number and between two of them to the even one. -/
def sharedOut (total parts : Nat) : Nat :=
  let below := total / parts
  let rest := 2 * (total % parts)
  if rest < parts ∨ (rest = parts ∧ below % 2 = 0) then below else below + 1

/-- Takes a total from widths in equal parts, of which there are `parts`.  Each width comes with the
most that may be taken from it, and nothing is a part of its own. -/
def takeEvenly (total parts : Nat) : List (Nat × Nat) → List Nat
  | [] => []
  | (size, most) :: rest =>
    if most = 0 then size :: takeEvenly total parts rest
    else
      let taken := min most (sharedOut total parts)
      (size - taken) :: takeEvenly (total - taken) (parts - 1) rest

/-- Takes from the widest of the columns that can shrink until the widths fit into `room`, the widest
ones first down to the next in width; at most `rounds` times. -/
def shrinkTo (room : Nat) : (rounds : Nat) → List (Nat × Bool) → List Nat
  | 0, columns => columns.map Prod.fst
  | rounds + 1, columns =>
    let excess := (columns.map Prod.fst).foldl (· + ·) 0 - room
    let shrinking := (columns.filter Prod.snd).map Prod.fst
    let widest := shrinking.foldl max 0
    let next := (shrinking.filter (· ≠ widest)).foldl max 0
    if excess = 0 ∨ widest = 0 then columns.map Prod.fst
    else
      let limits := columns.map fun (size, shrinks) =>
        (size, if shrinks && size = widest then min excess (widest - next) else 0)
      let sizes := takeEvenly excess (limits.countP (·.2 ≠ 0)) limits
      shrinkTo room rounds (sizes.zip (columns.map Prod.snd))

example : shrinkTo 10 16 [(9, true), (5, true), (2, false)] = [4, 4, 2] := by decide

/-- The blanks around a cell. -/
def cellPadding : Nat := 2

/-- The widths of the columns of a table for a console of the given width. -/
def columnSizes (size : Nat) (columns : List Column) (rows : List (List Marked)) : List Nat :=
  let wanted := columns.zipIdx.map fun (c, i) =>
    c.size.getD ((rows.map fun row => (row[i]?.map (cellSize ·.text)).getD 0).foldl max
      (cellSize c.heading))
  let room := size - (columns.length + 1)
  let padded := (columns.zip wanted).map fun (c, cells) =>
    (min room (cells + cellPadding), c.size.isNone)
  (shrinkTo room ((padded.map Prod.fst).foldl (· + ·) 0) padded).map (· - cellPadding)

/-! ### Lines of a table -/

/-- The signs that a table is drawn with: at the left end of a line, what fills it, between two
columns, and at the right end. -/
structure Rule where
  left : Char
  fill : Char
  between : Char
  right : Char

/-- The line above the headings. -/
def Rule.top : Rule := ⟨'┏', '━', '┳', '┓'⟩

/-- The headings. -/
def Rule.heading : Rule := ⟨'┃', ' ', '┃', '┃'⟩

/-- The line below the headings. -/
def Rule.middle : Rule := ⟨'┡', '━', '╇', '┩'⟩

/-- The rows. -/
def Rule.row : Rule := ⟨'│', ' ', '│', '│'⟩

/-- The line below the rows. -/
def Rule.bottom : Rule := ⟨'└', '─', '┴', '┘'⟩

/-- The cells of one line, with one sign around each of them. -/
def Rule.line (r : Rule) (cells : List (List Char)) : List Char :=
  let padded := cells.map fun cell => r.fill :: cell ++ [r.fill]
  r.left :: [r.between].intercalate padded ++ [r.right]

/-- A line without cells. -/
def Rule.empty (r : Rule) (sizes : List Nat) : List Char :=
  r.line (sizes.map (List.replicate · r.fill))

/-- The lines of a row whose cells have their lines; a cell that ends earlier is empty after that. -/
def rowLines (r : Rule) (sizes : List Nat) (cells : List (List (List Char))) : List (List Char) :=
  let height := (cells.map List.length).foldl max 0
  (List.range height).map fun i =>
    r.line ((sizes.zip cells).map fun (size, lines) => lines[i]?.getD (List.replicate size ' '))

/-- A title in the middle of a line; of two places the one further left. -/
def centered (size : Nat) (title : List Char) : List Char :=
  let free := size - width title
  List.replicate (free / 2) ' ' ++ title ++ List.replicate (free - free / 2) ' '

/-- The lines of a table for a console of the given width, unless a style in a cell cannot be
read. -/
def tableLines (size : Nat) (title : List Char) (columns : List Column)
    (rows : List (List Marked)) : Except MarkupError (List (List Char)) := do
  let sizes := columnSizes size columns rows
  let row (cells : List Marked) : Except MarkupError (List (List (List Char))) :=
    ((columns.zip sizes).zip cells).mapM fun ((c, size), cell) => c.lines size cell
  let headings ← row (columns.map (.plain ·.heading))
  let rows ← rows.mapM row
  let top := Rule.top.empty sizes
  return centered top.length title :: top :: rowLines .heading sizes headings ++
    Rule.middle.empty sizes :: rows.flatMap (rowLines .row sizes) ++ [Rule.bottom.empty sizes]

end DeclSplit.Console
