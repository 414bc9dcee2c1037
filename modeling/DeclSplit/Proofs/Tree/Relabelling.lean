import DeclSplit.Proofs.Tree.Subtrees

/-!
# Relabelling

Changing every label of a tree moves no node, so it commutes with all that goes by the shape of a tree
and with all that looks at labels through the change:

* `Tree.depth_map` — the number of levels;
* `Tree.map_map` — two changes are one;
* `Tree.preorder_map`, `Tree.descendants_map` — the subtrees in order;
* `Tree.prune_map`, `Tree.pruneInPlace_map` — leaving out refused nodes;
* `Tree.at?_map`, `Tree.modifyAt_map` — a node named by its position.
-/

namespace DeclSplit.Tree

variable {α β γ : Type} (f : α → β)

@[simp] theorem label_map (t : Tree α) : (t.map f).label = f t.label := by
  cases t with
  | node a ts => rw [map_node, label_node, label_node]

@[simp] theorem children_map (t : Tree α) : (t.map f).children = t.children.map (map f) := by
  cases t with
  | node a ts => rw [map_node, children_node, children_node]

theorem map_map (g : β → γ) (t : Tree α) : (t.map f).map g = t.map (g ∘ f) := by
  induction t with
  | node a ts ih =>
    have hchildren : ts.map (map g ∘ map f) = ts.map (map (g ∘ f)) := List.map_congr_left ih
    rw [map_node, map_node, map_node, List.map_map, hchildren]
    rfl

/-- Two changes of the labels that undo each other leave the tree. -/
theorem map_map_of_leftInverse {g : β → α} (h : Function.LeftInverse g f) (t : Tree α) :
    (t.map f).map g = t := by
  rw [map_map, h.comp_eq_id]
  exact fold_node_eq_self t

theorem depth_map_le_iff {n : Nat} (t : Tree α) : (t.map f).depth ≤ n ↔ t.depth ≤ n := by
  induction t generalizing n with
  | node a ts ih =>
    rw [map_node]
    cases n with
    | zero =>
      have hleft := depth_pos (node (f a) (ts.map (map f)))
      have hright := depth_pos (node a ts)
      omega
    | succ n =>
      rw [depth_le_iff, depth_le_iff, List.forall_mem_map]
      exact forall₂_congr fun t ht => ih t ht

@[simp] theorem depth_map (t : Tree α) : (t.map f).depth = t.depth :=
  Nat.le_antisymm ((depth_map_le_iff f t).2 (Nat.le_refl _))
    ((depth_map_le_iff f t).1 (Nat.le_refl _))

/-! ### Subtrees in order -/

theorem preorder_map (t : Tree α) : (t.map f).preorder = t.preorder.map (map f) := by
  induction t with
  | node a ts ih =>
    rw [map_node, preorder_node, preorder_node, List.map_cons, map_node, List.flatMap_map,
      List.map_flatMap]
    congr 1
    exact List.flatMap_congr ih

theorem descendants_map (t : Tree α) : (t.map f).descendants = t.descendants.map (map f) := by
  have hpreorder := preorder_map f t
  rw [preorder_eq_cons_descendants, preorder_eq_cons_descendants, List.map_cons] at hpreorder
  exact (List.cons.inj hpreorder).2

theorem labels_map (t : Tree α) : (t.map f).labels = t.labels.map f := by
  rw [labels, labels, preorder_map, List.map_map, List.map_map]
  exact List.map_congr_left fun s _ => label_map f s

/-! ### Pruning -/

theorem prune_map (refused : β → Bool) (t : Tree α) :
    (t.map f).prune refused = (t.prune fun a => refused (f a)).map f := by
  induction t with
  | node a ts ih =>
    rw [map_node, prune_node, prune_node, map_node, List.filter_map, List.map_map, List.map_map]
    simp only [Function.comp_def, label_map]
    rw [List.map_congr_left fun t ht => ih t (List.mem_of_mem_filter ht)]

theorem pruneInPlace_map (refused : β → Bool) (t : Tree α) :
    (t.map f).pruneInPlace refused = (t.pruneInPlace fun a => refused (f a)).map f := by
  rw [pruneInPlace_eq_prune, pruneInPlace_eq_prune, prune_map]

/-! ### Positions -/

theorem at?_map (t : Tree α) (p : List Nat) : (t.map f).at? p = (t.at? p).map (map f) := by
  induction p generalizing t with
  | nil => rfl
  | cons i p ih =>
    rw [at?, at?, children_map, List.getElem?_map]
    cases t.children[i]? with
    | none => rfl
    | some c => exact ih c

/-- Two changes that agree through a function agree in one place of a list. -/
theorem map_modify {γ δ : Type} {g : γ → γ} {h : δ → δ} {k : γ → δ} (hk : ∀ c, k (g c) = h (k c))
    (cs : List γ) (i : Nat) : (cs.modify i g).map k = (cs.map k).modify i h := by
  refine List.ext_getElem? fun j => ?_
  rw [List.getElem?_map, List.getElem?_modify, List.getElem?_modify, List.getElem?_map]
  cases cs[j]? with
  | none => rfl
  | some c =>
    by_cases hij : i = j
    · simp [hij, hk]
    · simp [hij]

variable {f} in
theorem modifyAt_map {g : Tree α → Tree α} {h : Tree β → Tree β}
    (hgh : ∀ t, (g t).map f = h (t.map f)) (t : Tree α) (p : List Nat) :
    (t.modifyAt g p).map f = (t.map f).modifyAt h p := by
  induction p generalizing t with
  | nil => exact hgh t
  | cons i p ih =>
    cases t with
    | node a ts =>
      rw [modifyAt, map_node, map_node, modifyAt,
        map_modify (g := modifyAt g p) (h := modifyAt h p) fun t => ih t]

end DeclSplit.Tree
