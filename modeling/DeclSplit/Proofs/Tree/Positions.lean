import DeclSplit.Proofs.Tree.Recursion
import Mathlib.Data.List.Basic

/-!
# Positions

What is done at a position below a child is done in that child, and the positions of a list of trees
are those of its trees one after the other.

* `Tree.pruneInPlace_eq_prune` — dropping the refused children node by node, last node first, is
  pruning;
* `Tree.wayTo` — the nodes on the way from the root to a position;
* `Tree.map_at?_positions` — the positions lead to the nodes of the pre-order;
* `Tree.subtreesWhere` — the subtrees to which a way leads that meets a condition;
* `Tree.openSubtrees` — the subtrees to which a way leads that meets no refused node;
* `Tree.preorder_prune` — the subtrees of a pruned tree are the open subtrees, each pruned.
-/

namespace DeclSplit.Tree

variable {α : Type}

/-! ### Below a child -/

theorem at?_below (a : α) (before after : List (Tree α)) (c : Tree α) (p : List Nat) :
    (node a (before ++ c :: after)).at? (before.length :: p) = c.at? p := by
  have hchild : (before ++ c :: after)[before.length]? = some c := by simp
  rw [at?, children_node, hchild, Option.bind_some]

theorem modify_append_cons {β : Type} (before after : List β) (b : β) (f : β → β) :
    (before ++ b :: after).modify before.length f = before ++ f b :: after := by
  induction before with
  | nil => rfl
  | cons c before ih => rw [List.cons_append, List.length_cons, List.modify_succ_cons, ih,
      List.cons_append]

/-- Changes at positions below one child are changes of that child. -/
theorem foldl_modifyAt_below {β : Type} (f : β → Tree α → Tree α) (p : β → List Nat) (a : α)
    (before after : List (Tree α)) (xs : List β) (t : Tree α) :
    xs.foldl (fun t x => t.modifyAt (f x) (before.length :: p x)) (node a (before ++ t :: after)) =
      node a (before ++ xs.foldl (fun t x => t.modifyAt (f x) (p x)) t :: after) := by
  induction xs generalizing t with
  | nil => rfl
  | cons x xs ih =>
    rw [List.foldl_cons, modifyAt, modify_append_cons, ih, List.foldl_cons]

/-! ### Dropping children node by node -/

theorem positions_node (a : α) (ts : List (Tree α)) :
    (node a ts).positions = [] :: forestPositions 0 ts := by
  rw [positions]

/-- Node by node below the children from the given index on, each child is changed on its own. -/
theorem foldl_forestPositions (f : Tree α → Tree α) (a : α) (before ts : List (Tree α)) :
    (forestPositions before.length ts).reverse.foldl (fun t p => t.modifyAt f p)
        (node a (before ++ ts)) =
      node a (before ++ ts.map fun t => t.positions.reverse.foldl (fun t p => t.modifyAt f p) t) := by
  induction ts generalizing before with
  | nil => rw [forestPositions, List.map_nil]; rfl
  | cons t ts ih =>
    have hafter := ih (before ++ [t])
    rw [List.length_append, List.length_singleton, List.append_assoc, List.append_assoc,
      List.singleton_append, List.singleton_append] at hafter
    rw [forestPositions, List.reverse_append, List.foldl_append, hafter, ← List.map_reverse,
      List.foldl_map, foldl_modifyAt_below (fun _ => f) (fun p => p), List.map_cons]

theorem pruneInPlace_node (refused : α → Bool) (a : α) (ts : List (Tree α)) :
    (node a ts).pruneInPlace refused =
      dropChildren refused (node a (ts.map (pruneInPlace refused))) := by
  have hbelow := foldl_forestPositions (dropChildren refused) a [] ts
  rw [List.length_nil, List.nil_append, List.nil_append] at hbelow
  rw [pruneInPlace, positions_node, List.reverse_cons, List.foldl_append, hbelow]
  rfl

theorem pruneInPlace_eq_prune (refused : α → Bool) (t : Tree α) :
    t.pruneInPlace refused = t.prune refused := by
  induction t with
  | node a ts ih =>
    rw [pruneInPlace_node, List.map_congr_left ih, dropChildren, label_node, children_node,
      List.filter_map, prune_node]
    simp only [Function.comp_def, label_prune]

/-! ### Ways that meet no refused node -/

/-- The nodes on the way from the root to a position: the root is left out, the last one is not. -/
def wayTo (t : Tree α) (p : List Nat) : List (Tree α) :=
  (List.range p.length).filterMap fun n => t.at? (p.take (n + 1))

theorem wayTo_cons (t : Tree α) (i : Nat) (p : List Nat) {c : Tree α}
    (hc : t.children[i]? = some c) : t.wayTo (i :: p) = c :: c.wayTo p := by
  rw [wayTo, List.length_cons, List.range_succ_eq_map, List.filterMap_cons_some (b := c),
    List.filterMap_map, wayTo]
  · congr 1
    refine List.filterMap_congr fun n _ => ?_
    simp [at?, hc]
  · simp [at?, hc]

/-- The positions below the children from the given index on lead through their child. -/
theorem filterMap_forestPositions {β : Type} (f : List (Tree α) → Option (Tree α) → Option β) (a : α)
    (before ts : List (Tree α)) :
    ((forestPositions before.length ts).filterMap fun p =>
        f ((node a (before ++ ts)).wayTo p) ((node a (before ++ ts)).at? p)) =
      ts.flatMap fun t => t.positions.filterMap fun p => f (t :: t.wayTo p) (t.at? p) := by
  induction ts generalizing before with
  | nil => rw [forestPositions]; rfl
  | cons t ts ih =>
    have hafter := ih (before ++ [t])
    rw [List.length_append, List.length_singleton, List.append_assoc, List.singleton_append]
      at hafter
    have hchild : (node a (before ++ t :: ts)).children[before.length]? = some t := by
      rw [children_node, List.getElem?_append_right (Nat.le_refl _), Nat.sub_self]
      rfl
    rw [forestPositions, List.filterMap_append, hafter, List.filterMap_map, List.flatMap_cons]
    simp only [Function.comp_def, wayTo_cons _ _ _ hchild, at?_below]

/-- The positions lead to the nodes of the pre-order. -/
theorem map_at?_positions (t : Tree α) : t.positions.map t.at? = t.preorder.map some := by
  induction t with
  | node a ts ih =>
    have hbelow := filterMap_forestPositions (fun _ s => some s) a [] ts
    rw [List.length_nil, List.nil_append, List.filterMap_eq_map'] at hbelow
    have hts : (ts.flatMap fun t => t.positions.map t.at?) = (ts.flatMap preorder).map some := by
      rw [List.flatMap_congr ih, List.map_flatMap]
    rw [positions_node, preorder_node, List.map_cons, List.map_cons, hbelow]
    simp only [List.filterMap_eq_map', hts]
    rfl

/-- The subtrees, in pre-order, at the positions to which the way meets a condition. -/
def subtreesWhere (q : List (Tree α) → Bool) (t : Tree α) : List (Tree α) :=
  (t.positions.filter fun p => q (t.wayTo p)).filterMap t.at?

theorem subtreesWhere_node (q : List (Tree α) → Bool) (a : α) (ts : List (Tree α)) :
    (node a ts).subtreesWhere q =
      (if q [] then [node a ts] else []) ++
        ts.flatMap fun t => t.subtreesWhere fun way => q (t :: way) := by
  have hbelow := filterMap_forestPositions (fun way s => if q way then s else none) a [] ts
  rw [List.length_nil, List.nil_append] at hbelow
  have hway : (node a ts).wayTo [] = [] := rfl
  have hroot : (node a ts).at? [] = some (node a ts) := rfl
  simp only [subtreesWhere, List.filterMap_filter]
  rw [positions_node, List.filterMap_cons, hway, hroot, hbelow]
  by_cases hq : q [] = true
  · rw [if_pos hq, if_pos hq]
    rfl
  · rw [if_neg hq, if_neg hq]
    rfl

theorem subtreesWhere_false (t : Tree α) : t.subtreesWhere (fun _ => false) = [] := by
  rw [subtreesWhere, List.filter_false]
  rfl

/-- The subtrees, in pre-order, at the positions to which a way leads that meets no refused node. -/
def openSubtrees (refused : α → Bool) (t : Tree α) : List (Tree α) :=
  (t.positions.filter fun p => (t.wayTo p).all fun s => !refused s.label).filterMap t.at?

theorem openSubtrees_node (refused : α → Bool) (a : α) (ts : List (Tree α)) :
    (node a ts).openSubtrees refused =
      node a ts :: (ts.filter fun t => !refused t.label).flatMap (openSubtrees refused) := by
  show (node a ts).subtreesWhere (fun way => way.all fun s => !refused s.label) = _
  rw [subtreesWhere_node]
  show node a ts :: (ts.flatMap fun t => t.subtreesWhere fun way =>
    !refused t.label && way.all fun s => !refused s.label) = _
  congr 1
  induction ts with
  | nil => rfl
  | cons t ts ih =>
    rw [List.flatMap_cons, ih]
    cases hr : refused t.label with
    | true =>
      rw [List.filter_cons_of_neg (by simp [hr])]
      simp only [Bool.not_true, Bool.false_and, subtreesWhere_false, List.nil_append]
    | false =>
      rw [List.filter_cons_of_pos (by simp [hr]), List.flatMap_cons]
      simp only [Bool.not_false, Bool.true_and]
      rfl

/-- The subtrees of a pruned tree are the open subtrees, each pruned. -/
theorem preorder_prune (refused : α → Bool) (t : Tree α) :
    (t.prune refused).preorder = (t.openSubtrees refused).map (prune refused) := by
  induction t with
  | node a ts ih =>
    rw [openSubtrees_node, List.map_cons, prune_node, preorder_node, List.flatMap_map,
      List.map_flatMap]
    congr 1
    exact List.flatMap_congr fun t ht => ih t (List.mem_of_mem_filter ht)

theorem labels_prune (refused : α → Bool) (t : Tree α) :
    (t.prune refused).labels = (t.openSubtrees refused).map label := by
  rw [labels, preorder_prune, List.map_map]
  exact List.map_congr_left fun s _ => label_prune refused s

end DeclSplit.Tree
