import DeclSplit.Ir.Optimize
import DeclSplit.Proofs.Tree.Pruning

/-!
# What is left without the grouping nodes

Leaving out the grouping nodes is said here without any list of nodes that are visited.  All statements
are on a test of kinds, so they hold of every vocabulary and of kinds that are no texts.

* `Ir.IsOptimized` — what a tree is when its grouping nodes are left out;
* `Ir.isOptimized_optimizeWhere` — the visits lead to it, and none of them goes astray;
* `Ir.optimizeEach` — the tree after the grouping nodes were left out below several nodes, one after
  the other;
* `Ir.optimizeWhere_confluent` — neither the order of two tests nor what was left out before makes a
  difference.
-/

namespace DeclSplit.Ir

variable {κ : Type} [Ord κ] (isGrouping : κ → Bool)

theorem optimizeWhere_eq_prune (t : Ir κ) :
    t.optimizeWhere isGrouping = t.prune fun label => isGrouping label.kind :=
  Tree.pruneInPlace_eq_prune _ t

theorem optimizeWhere_eq :
    (optimizeWhere isGrouping : Ir κ → Ir κ) = Tree.prune fun label => isGrouping label.kind :=
  funext fun t => optimizeWhere_eq_prune isGrouping t

theorem nodeCount_eq_size (t : Ir κ) : t.nodeCount = t.size := by
  rw [nodeCount, Tree.length_walk]

/-- What the tree `t` is when its grouping nodes are left out. -/
structure IsOptimized (t t' : Ir κ) : Prop where
  /-- Every child is treated first, then the grouping ones among them are dropped. -/
  eq_fold : t' = t.fold fun label children =>
    .node label (children.filter fun c => !isGrouping c.label.kind)
  /-- The nodes that stay are those to which a way leads from the root that meets no grouping node, the
  root left out.  They are in their old order, each with all that it says of itself. -/
  labels_eq : t'.labels = (t.openSubtrees fun label => isGrouping label.kind).map Tree.label
  /-- The root stays, whatever its kind is. -/
  label_eq : t'.label = t.label
  /-- The others are the nodes of the outermost grouping subtrees below the root. -/
  nodeCount_add :
    t'.nodeCount + Tree.forestSize (t.outermost fun label => isGrouping label.kind) = t.nodeCount

/-- Of the nodes of a tree, taken down in pre-order and visited from the last one to the first, each
stands where it stood at first when its turn comes: its children are all there, and below them the
grouping nodes are left out.  When all have been visited, the grouping nodes of the tree are. -/
theorem isOptimized_optimizeWhere (t : Ir κ) :
    (∀ n, (t.positions[n]?).bind (t.pruneFrom (fun label => isGrouping label.kind) (n + 1)).at? =
      (t.walk[n]?).map fun s => .node s.label (s.children.map (optimizeWhere isGrouping))) ∧
    t.pruneFrom (fun label => isGrouping label.kind) 0 = t.optimizeWhere isGrouping ∧
    IsOptimized isGrouping t (t.optimizeWhere isGrouping) := by
  have hprune : optimizeWhere isGrouping = Tree.prune fun label => isGrouping label.kind :=
    funext fun s => optimizeWhere_eq_prune isGrouping s
  refine ⟨fun n => ?_, rfl, ?_, ?_, ?_, ?_⟩
  · rw [Tree.walk_eq_preorder, hprune]
    exact Tree.at?_pruneFrom _ t n
  · rw [hprune, Tree.prune_eq_fold]
  · rw [hprune, Tree.labels_prune]
  · rw [hprune, Tree.label_prune]
  · rw [nodeCount_eq_size, nodeCount_eq_size, hprune]
    exact Tree.size_prune_add _ t

/-! ### One call after another -/

/-- The tree after the grouping nodes were left out below several of its nodes, one after the other.  The
nodes are named by the positions that they have then; a node that has been cut off has none, and where
there is no node nothing is changed. -/
def optimizeEach (t : Ir κ) (positions : List (List Nat)) : Ir κ :=
  positions.foldl (fun t p => t.modifyAt (optimizeWhere isGrouping) p) t

/-- What is left out below one node is also left out below the root. -/
theorem optimizeWhere_modifyAt (t : Ir κ) (p : List Nat) :
    optimizeWhere isGrouping (t.modifyAt (optimizeWhere isGrouping) p) = optimizeWhere isGrouping t := by
  rw [optimizeWhere_eq]
  apply Tree.prune_modifyAt
  · intro s
    exact Tree.label_prune _ s
  · intro s
    rw [Tree.prune_prune]
    simp only [Bool.or_self]

theorem optimizeWhere_optimizeEach (t : Ir κ) (positions : List (List Nat)) :
    (t.optimizeEach isGrouping positions).optimizeWhere isGrouping = t.optimizeWhere isGrouping := by
  induction positions generalizing t with
  | nil => rfl
  | cons p positions ih =>
    have hrest := ih (t.modifyAt (optimizeWhere isGrouping) p)
    rw [optimizeWhere_modifyAt] at hrest
    exact hrest

/-- The grouping nodes of two vocabularies can be left out in either order.  Leaving them out below any
nodes of a tree first, the root among them, makes no difference when it is done below the root at last. -/
theorem optimizeWhere_confluent (t : Ir κ) :
    (∀ isGrouping isGrouping' : κ → Bool,
      (t.optimizeWhere isGrouping).optimizeWhere isGrouping' =
        (t.optimizeWhere isGrouping').optimizeWhere isGrouping) ∧
    ∀ (isGrouping : κ → Bool) (positions : List (List Nat)),
      (t.optimizeEach isGrouping positions).optimizeWhere isGrouping =
        t.optimizeWhere isGrouping := by
  constructor
  · intro isGrouping isGrouping'
    rw [optimizeWhere_eq, optimizeWhere_eq, Tree.prune_prune, Tree.prune_prune]
    simp only [Bool.or_comm]
  · intro isGrouping positions
    exact optimizeWhere_optimizeEach isGrouping t positions

end DeclSplit.Ir
