import DeclSplit.Tree

/-!
# Listings

A listing writes a tree flat: one entry for each node in pre-order, with its label and the number
of its children.

* `Tree.listing` — the listing of a tree;
* `Tree.ofListing?` — the tree of a listing, if it lists exactly one tree.
-/

namespace DeclSplit.Tree

variable {α : Type}

/-- The label and the number of children of each node, in pre-order. -/
def listing (t : Tree α) : List (α × Nat) :=
  t.preorder.map fun s => (s.label, s.children.length)

/-- Puts one entry before a list of trees: its children are the first of them. -/
def gather (entry : α × Nat) (trees : List (Tree α)) : Option (List (Tree α)) :=
  if entry.2 ≤ trees.length then
    some (.node entry.1 (trees.take entry.2) :: trees.drop entry.2)
  else
    none

/-- The trees that a listing holds one after the other. -/
def forestOfListing? (entries : List (α × Nat)) : Option (List (Tree α)) :=
  entries.foldr (fun entry trees => trees.bind (gather entry)) (some [])

/-- The tree of a listing, if it lists exactly one tree. -/
def ofListing? (entries : List (α × Nat)) : Option (Tree α) :=
  match forestOfListing? entries with
  | some [t] => some t
  | _ => none

end DeclSplit.Tree
