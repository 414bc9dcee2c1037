import DeclSplit.Console.Wrap
import DeclSplit.Tree

/-!
# Trees on the console

Each node has a line of its own below that of its parent, with guides that lead to it.

* `Console.treeLines` — the lines of a tree.
-/

namespace DeclSplit.Console

/-- The guide to a child, and the one past it to what is below. -/
structure Guides where
  child : List Char
  past : List Char

/-- The guides of a child that is not the last one. -/
def Guides.fork : Guides := ⟨['├', '─', '─', ' '], ['│', ' ', ' ', ' ']⟩

/-- The guides of the last child. -/
def Guides.last : Guides := ⟨['└', '─', '─', ' '], [' ', ' ', ' ', ' ']⟩

/-- The lines of a label, of which the first one comes after `first` and the others after `others`.
There are none where the guides leave no room. -/
def labelLines (size : Nat) (first others label : List Char) : List (List Char) :=
  let room := size - Text.width first
  if room = 0 then []
  else
    match wrap .fold room label with
    | [] => []
    | line :: lines => (first ++ line) :: lines.map (others ++ ·)

mutual

/-- The lines of a subtree, of which the first one comes after `first` and the others after
`others`. -/
def subtreeLines (size : Nat) (first others : List Char) : Tree (List Char) → List (List Char)
  | .node label children =>
    labelLines size first others label ++ forestLines size others children

/-- The lines of the children of a node; `before` is in front of their guides. -/
def forestLines (size : Nat) (before : List Char) : List (Tree (List Char)) → List (List Char)
  | [] => []
  | [t] => subtreeLines size (before ++ Guides.last.child) (before ++ Guides.last.past) t
  | t :: ts =>
    subtreeLines size (before ++ Guides.fork.child) (before ++ Guides.fork.past) t ++
      forestLines size before ts

end

/-- The lines of a tree of labels; no line is wider than `size` cells. -/
def treeLines (size : Nat) (t : Tree (List Char)) : List (List Char) :=
  subtreeLines size [] [] t

example : treeLines 80 (.node ['r'] [.node ['a'] [.node ['b'] []], .node ['c'] []]) =
    ["r", "├── a", "│   └── b", "└── c"].map String.toList := by
  decide

end DeclSplit.Console
