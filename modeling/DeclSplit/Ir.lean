import DeclSplit.Tree.Traversal
import DeclSplit.Tree.Listing
import DeclSplit.NameSet

/-!
# The intermediate representation

A tree in which each node has, besides its kind and its name, a mark for control flow and the set
of names it depends on.  Kinds and names are texts where a tree was built from syntax and may be
other values where it was read from a document, so their type is a parameter.

* `Ir` — trees of the intermediate representation;
* `Ir.nodeCount`, `Ir.branchCount` — the number of all nodes and of those that branch;
* `Ir.shallow` — the root without its children.
-/

namespace DeclSplit

/-- What a node does to the flow of control. -/
inductive ControlFlow where
  /-- A condition or a loop. -/
  | branch
  deriving Repr, DecidableEq, Inhabited

/-- The word that a document has for a mark. -/
def ControlFlow.word : ControlFlow → String
  | .branch => "Branch"

/-- What a node of the intermediate representation says of itself. -/
structure Ir.Label (κ : Type) [Ord κ] where
  kind : κ
  name : κ
  controlFlow : Option ControlFlow
  dependencies : NameSet κ

instance {κ : Type} [Ord κ] [DecidableEq κ] : DecidableEq (Ir.Label κ) := fun l m =>
  decidable_of_iff
    (l.kind = m.kind ∧ l.name = m.name ∧ l.controlFlow = m.controlFlow ∧
      l.dependencies = m.dependencies)
    (by cases l; cases m; simp)

/-- A tree of the intermediate representation. -/
abbrev Ir (κ : Type) [Ord κ] := Tree (Ir.Label κ)

namespace Ir

variable {κ : Type} [Ord κ]

instance [Inhabited κ] : Inhabited (Label κ) := ⟨⟨default, default, none, ∅⟩⟩

/-- Whether a node is marked as a branch. -/
def Label.isBranch (label : Label κ) : Bool :=
  label.controlFlow == some .branch

/-- The name of the root. -/
def name (t : Ir κ) : κ := t.label.name

/-- The kind of the root. -/
def kind (t : Ir κ) : κ := t.label.kind

/-- The names that the root depends on. -/
def dependencies (t : Ir κ) : NameSet κ := t.label.dependencies

/-- The tree with the label of its root changed. -/
def mapRoot (f : Label κ → Label κ) (t : Ir κ) : Ir κ :=
  .node (f t.label) t.children

/-- The root without its children. -/
def shallow (t : Ir κ) : Ir κ :=
  .node t.label []

/-- The number of nodes, counted on a walk. -/
def nodeCount (t : Ir κ) : Nat :=
  t.walk.length

/-- The number of nodes that are marked as branches. -/
def branchCount (t : Ir κ) : Nat :=
  t.walk.countP fun s => s.label.isBranch

end Ir

end DeclSplit
