import DeclSplit.Ir
import DeclSplit.Ast
import DeclSplit.Proofs.Tree.Listing
import DeclSplit.Proofs.Tree.Pruning
import DeclSplit.Proofs.Tree.Slices

/-!
# Walks

A walk keeps the trees that are still to be visited on a stack, those of all levels together.  What it
meets is the pre-order of the stack, tree by tree, so nothing but what is below a node comes between the
node and the next one that is not below it.

* `Tree.WalksInOrder` — the walk is the pre-order, and the walk on a subtree is a slice of it;
* `Tree.walk_eq_slice` — the slice;
* `Tree.walk_contiguous` — this holds of syntax trees and of the intermediate representation, and a
  syntax tree is known from what a walk meets.
-/

namespace DeclSplit.Tree

variable {α : Type}

/-- The walk on a subtree is the slice of the walk on the tree that begins where the subtree is met and is
as long as the subtree has nodes. -/
theorem walk_eq_slice {t s : Tree α} {i : Nat} (h : t.walk[i]? = some s) :
    s.walk = (t.walk.drop i).take s.size := by
  have hall : (t.preorder.filter fun _ => true)[i]? = some s := by
    rw [List.filter_true, ← walk_eq_preorder, h]
  have hslice := filter_preorder_eq_slice hall
  rwa [List.filter_true, List.filter_true, List.countP_true, length_preorder, ← walk_eq_preorder,
    ← walk_eq_preorder] at hslice

/-- The walk on a tree is the pre-order, the count is the number of nodes, and from every subtree on the
walk is the one on the subtree for as many nodes as are counted in it. -/
structure WalksInOrder (count : Tree α → Nat) (t : Tree α) : Prop where
  walk_eq : t.walk = t.preorder
  count_eq : count t = t.size
  slice : ∀ i : Fin t.walk.length,
    (t.walk.get i).walk = (t.walk.drop i).take (count (t.walk.get i))

theorem walksInOrder {count : Tree α → Nat} (hcount : ∀ t, count t = t.walk.length) (t : Tree α) :
    t.WalksInOrder count where
  walk_eq := walk_eq_preorder t
  count_eq := by rw [hcount, length_walk]
  slice i := by
    rw [hcount, length_walk]
    exact walk_eq_slice (List.getElem?_eq_getElem i.isLt)

/-- A walk meets the nodes of a syntax tree, and those of a tree of the intermediate representation, in
pre-order, and each subtree in one piece that is as long as it has nodes.  No two syntax trees have the
same kinds, names and numbers of children all along a walk. -/
theorem walk_contiguous (κ : Type) [Ord κ] :
    (∀ t : Ast, t.WalksInOrder Ast.nodeCount) ∧
    (∀ t : Ir κ, t.WalksInOrder Ir.nodeCount) ∧
    Function.Injective fun t : Ast => t.walk.map fun s : Ast => (s.kind, s.name, s.children.length) := by
  refine ⟨walksInOrder fun _ => rfl, walksInOrder fun _ => rfl, fun t u h => listing_injective ?_⟩
  have hlisting : ∀ t : Ast, t.listing =
      (t.walk.map fun s : Ast => (s.kind, s.name, s.children.length)).map fun entry =>
        (⟨entry.1, entry.2.1⟩, entry.2.2) := by
    intro t
    rw [List.map_map, walk_eq_preorder, listing]
    rfl
  rw [hlisting, hlisting]
  exact congrArg _ h

end DeclSplit.Tree
