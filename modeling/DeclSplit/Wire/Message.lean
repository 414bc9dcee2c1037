import DeclSplit.Ast

/-!
# Node messages

The message of a node has a kind, a name and the messages of its children, so it is kept as a syntax
tree.  A message can be filled several times over: the kind and the name of the last time count, and
the children add up.

* `Wire.merge` — a message after it was filled from one more tree;
* `Wire.fill` — the same, one node at a time, each child created inside its parent;
* `Wire.toAst` — the tree of a message that is not too deep.
-/

namespace DeclSplit.Wire

/-- The message before anything was filled in. -/
def blank : Ast :=
  .node ⟨"", ""⟩ []

/-- A message after it was filled from a tree. -/
def merge (message tree : Ast) : Ast :=
  .node tree.label (message.children ++ tree.children)

/-- Fills one node of a message: its own fields, and a blank child for each child of the tree. -/
def fillNode (tree message : Ast) : Ast :=
  .node tree.label (message.children ++ tree.children.map fun _ => blank)

/-- Fills the nodes of a message that are on a stack, each from its tree, until none is left. -/
def fillStack (message : Ast) (stack : List (List Nat × Ast)) : Ast :=
  match stack with
  | [] => message
  | (position, tree) :: rest =>
    let first := ((message.at? position).map fun m => m.children.length).getD 0
    fillStack (message.modifyAt (fillNode tree) position)
      (Tree.pendingChildren position first tree ++ rest)
termination_by Tree.forestSize (stack.map Prod.snd)
decreasing_by exact Tree.forestSize_pendingChildren_lt ..

/-- A message after it was filled from a tree, node by node. -/
def fill (message tree : Ast) : Ast :=
  fillStack message [([], tree)]

/-- The number of levels that a message may have. -/
def maxLevels : Nat := 100

/-- The tree of a message, if it has no more than the allowed levels. -/
def toAst (message : Ast) : Option Ast :=
  message.collapseWithin maxLevels .node

end DeclSplit.Wire
