import DeclSplit.Tree.Traversal
import DeclSplit.Tree.Listing

/-!
# Syntax trees

A syntax tree is a snapshot of what a parser found: each node has a kind, such as `IfStmt`, and a
name, which is empty for a node without one.

* `Ast` — syntax trees;
* `Ast.nodeCount` — the number of nodes.
-/

namespace DeclSplit

/-- What a node of a syntax tree says of itself. -/
structure Ast.Label where
  kind : String
  name : String
  deriving Repr, DecidableEq, Inhabited

/-- A syntax tree. -/
abbrev Ast := Tree Ast.Label

namespace Ast

/-- The kind of the root. -/
def kind (t : Ast) : String := t.label.kind

/-- The name of the root. -/
def name (t : Ast) : String := t.label.name

/-- The number of nodes, counted on a walk. -/
def nodeCount (t : Ast) : Nat :=
  t.walk.length

end Ast

end DeclSplit
