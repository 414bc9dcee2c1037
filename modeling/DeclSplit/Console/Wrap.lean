import DeclSplit.Text.Blank
import DeclSplit.Text.Split
import DeclSplit.Text.Width

/-!
# Lines of a given width

A text is broken into lines before words that would go beyond the width.  The blanks before a break
stay at the end of their line as far as they fit.  A word that is wider than a line is broken itself
or cut off.

* `Console.wrap` — the lines of a text;
* `Console.Overflow` — what becomes of a word that is wider than a line.
-/

namespace DeclSplit.Console

open Text (width isBlank trimEnd Cluster clusters)

/-- The columns between two tab stops. -/
def tabSize : Nat := 8

/-- The parts of a line between its tabs, the first one at a tab stop.  Each tab goes to the next tab
stop, by at least one blank. -/
def expandTabsFrom : List (List Char) → List Char
  | [] => []
  | [part] => part
  | part :: rest =>
    let past := width (part ++ [' ']) % tabSize
    part ++ List.replicate (1 + (tabSize - past) % tabSize) ' ' ++ expandTabsFrom rest

/-- A line with blanks in place of its tabs. -/
def expandTabs (line : List Char) : List Char :=
  expandTabsFrom (Text.splitOn '\t' line)

/-! ### Words -/

/-- The words of a line, each with the blanks after it; those at the start of the line are in the first
one.  A line of blanks has no words. -/
def wordsFrom : (steps : Nat) → List Char → List (List Char)
  | 0, _ => []
  | steps + 1, line =>
    let before := line.takeWhile isBlank
    let rest := line.dropWhile isBlank
    let inner := rest.takeWhile fun c => !isBlank c
    let after := (rest.dropWhile fun c => !isBlank c).takeWhile isBlank
    if inner.isEmpty then []
    else (before ++ inner ++ after) :: wordsFrom steps (rest.drop (inner.length + after.length))

/-- The words of a line. -/
def words (line : List Char) : List (List Char) :=
  wordsFrom line.length line

/-- A word in parts that are no wider than a line, if no single cluster is; `room` cells are left for
the first one. -/
def chopFrom (size room : Nat) : List Cluster → List Char × List (List Char)
  | [] => ([], [])
  | c :: rest =>
    if room < c.cells then
      let (part, parts) := chopFrom size (size - c.cells) rest
      ([], (c.text ++ part) :: parts)
    else
      let (part, parts) := chopFrom size (room - c.cells) rest
      (c.text ++ part, parts)

/-- The parts of a word. -/
def chop (size : Nat) (word : List Char) : List (List Char) :=
  let (part, parts) := chopFrom size size (clusters word)
  part :: parts

/-! ### Lines -/

/-- What becomes of a word that is wider than a line. -/
inductive Overflow where
  /-- It goes on in the next line. -/
  | fold
  /-- An ellipsis takes the place of what does not fit. -/
  | ellipsis
  deriving DecidableEq, Repr

/-- Words put on lines; `line` is what is on the current line and `used` its width. -/
def fill (overflow : Overflow) (size : Nat) (line : List Char) (used : Nat) :
    List (List Char) → List (List Char)
  | [] => [line]
  | word :: rest =>
    let cells := width (trimEnd word)
    let before := if line.isEmpty then [] else [line]
    if used + cells ≤ size then fill overflow size (line ++ word) (used + width word) rest
    else if size < cells then
      match overflow with
      | .fold =>
        let parts := chop size word
        let parts := if line.isEmpty then parts.dropWhile List.isEmpty else parts
        let last := parts.getLastD []
        before ++ parts.dropLast ++ fill overflow size last (width last) rest
      | .ellipsis => before ++ fill overflow size word (width word) rest
    else if line.isEmpty || used = 0 then fill overflow size (line ++ word) used rest
    else line :: fill overflow size word (width word) rest

/-- A line without the blanks at its end that go beyond the width. -/
def trimExcess (size : Nat) (line : List Char) : List Char :=
  let blanks := line.length - (trimEnd line).length
  line.take (line.length - min blanks (line.length - size))

/-- The clusters at the start of a line that fit into so many cells; a blank takes the place of half a
cluster. -/
def cropTo : (size : Nat) → List Cluster → List Char
  | 0, _ | _, [] => []
  | size + 1, c :: rest =>
    if c.cells ≤ size + 1 then c.text ++ cropTo (size + 1 - c.cells) rest
    else List.replicate (size + 1) ' '

/-- A line as far as it fits into so many cells. -/
def truncate (overflow : Overflow) (size : Nat) (line : List Char) : List Char :=
  if width line ≤ size then line
  else
    match overflow with
    | .fold => cropTo size (clusters line)
    | .ellipsis => cropTo (size - 1) (clusters line) ++ ['…']

/-- The lines of a line of text, in which blanks stand for tabs, before the ends are cut off. -/
def breakLine (overflow : Overflow) (size : Nat) (line : List Char) : List (List Char) :=
  match words line with
  | [] => [line]
  | ws => fill overflow size [] 0 ws

/-- The lines of a text; no line is wider than `size` cells. -/
def wrap (overflow : Overflow) (size : Nat) (text : List Char) : List (List Char) :=
  (Text.splitOn '\n' text).flatMap fun line =>
    (breakLine overflow size (expandTabs line)).map fun part =>
      truncate overflow size (trimExcess size part)

example : wrap .fold 4 ['a', 'b', ' ', 'c', 'd', 'e', 'f', 'g'] =
    [['a', 'b', ' '], ['c', 'd', 'e', 'f'], ['g']] := by
  decide

end DeclSplit.Console
