import DeclSplit.Tree.Traversal
import Mathlib.Data.List.Forall2

/-!
# Recursion on trees

The definitions on trees come with a twin on lists of trees.  Here every twin is said through the
operations on lists, so that a fact about trees needs one induction in which it is known of all
children:

* `Tree.induction` — the induction on trees;
* `Tree.fold_node`, `Tree.preorder_node`, `Tree.prune_node`, `Tree.depth_le_iff` — one level of each
  definition;
* `Tree.walk_eq_preorder` — the walk from a stack is the pre-order;
* `Tree.fold_node_eq_self` — the fold that puts every node back.
-/

namespace DeclSplit.Tree

variable {α β : Type}

/-- What holds of a node whenever it holds of all its children holds of every tree. -/
@[elab_as_elim, induction_eliminator]
theorem induction {motive : Tree α → Prop}
    (node : ∀ a ts, (∀ t ∈ ts, motive t) → motive (.node a ts)) : ∀ t, motive t
  | .node a ts => node a ts fun t _ => induction node t

/-! ### One level of each definition -/

theorem forestFold_eq_map (f : α → List β → β) (ts : List (Tree α)) :
    forestFold f ts = ts.map (fold f) := by
  induction ts with
  | nil => rw [forestFold, List.map_nil]
  | cons t ts ih => rw [forestFold, ih, List.map_cons]

@[simp] theorem fold_node (f : α → List β → β) (a : α) (ts : List (Tree α)) :
    (node a ts).fold f = f a (ts.map (fold f)) := by
  rw [fold, forestFold_eq_map]

theorem map_node (f : α → β) (a : α) (ts : List (Tree α)) :
    (node a ts).map f = .node (f a) (ts.map (map f)) := by
  rw [map, fold_node]
  rfl

theorem forest_eq_of_map_eq {f : Tree α → β} {ts us : List (Tree α)}
    (hts : ∀ t ∈ ts, ∀ u, f t = f u → t = u) (h : ts.map f = us.map f) : ts = us := by
  induction ts generalizing us with
  | nil => exact (List.map_eq_nil_iff.1 h.symm).symm
  | cons t ts ih =>
    cases us with
    | nil => exact absurd h (List.cons_ne_nil _ _)
    | cons u us =>
      rw [List.map_cons, List.map_cons] at h
      injection h with hhead htail
      rw [hts t List.mem_cons_self u hhead, ih (fun v hv => hts v (List.mem_cons_of_mem t hv)) htail]

/-- Two lists correspond in one sense if they do in another one, which is known place by place. -/
theorem forall₂_congr_of_mem {R S : α → β → Prop} {as : List α} {bs : List β}
    (h : ∀ a ∈ as, ∀ b ∈ bs, (R a b ↔ S a b)) : List.Forall₂ R as bs ↔ List.Forall₂ S as bs := by
  induction as generalizing bs with
  | nil => simp only [List.forall₂_nil_left_iff]
  | cons a as ih =>
    cases bs with
    | nil => simp only [List.forall₂_nil_right_iff]
    | cons b bs =>
      rw [List.forall₂_cons, List.forall₂_cons, h a List.mem_cons_self b List.mem_cons_self,
        ih fun c hc d hd => h c (List.mem_cons_of_mem a hc) d (List.mem_cons_of_mem b hd)]

theorem map_injective {f : α → β} (hf : Function.Injective f) : Function.Injective (map f) := by
  intro t
  induction t with
  | node a ts ih =>
    rintro ⟨b, us⟩ h
    rw [map_node, map_node] at h
    injection h with hlabel hchildren
    rw [hf hlabel, forest_eq_of_map_eq (fun t ht u hu => ih t ht hu) hchildren]

theorem forestPreorder_eq_flatMap (ts : List (Tree α)) :
    forestPreorder ts = ts.flatMap preorder := by
  induction ts with
  | nil => rw [forestPreorder, List.flatMap_nil]
  | cons t ts ih => rw [forestPreorder, ih, List.flatMap_cons]

@[simp] theorem preorder_node (a : α) (ts : List (Tree α)) :
    (node a ts).preorder = .node a ts :: ts.flatMap preorder := by
  rw [preorder, forestPreorder_eq_flatMap]

theorem forestPrune_eq_map (refused : α → Bool) (ts : List (Tree α)) :
    forestPrune refused ts = (ts.filter fun t => !refused t.label).map (prune refused) := by
  induction ts with
  | nil => rw [forestPrune, List.filter_nil, List.map_nil]
  | cons t ts ih =>
    rw [forestPrune, ih]
    split
    next h => rw [List.filter_cons_of_neg (by simp [h])]
    next h => rw [List.filter_cons_of_pos (by simp [h]), List.map_cons]

@[simp] theorem prune_node (refused : α → Bool) (a : α) (ts : List (Tree α)) :
    (node a ts).prune refused =
      .node a ((ts.filter fun t => !refused t.label).map (prune refused)) := by
  rw [prune, forestPrune_eq_map]

@[simp] theorem label_prune (refused : α → Bool) (t : Tree α) :
    (t.prune refused).label = t.label := by
  cases t with
  | node a ts => rw [prune_node, label_node, label_node]

theorem forestDepth_le_iff {n : Nat} (ts : List (Tree α)) :
    forestDepth ts ≤ n ↔ ∀ t ∈ ts, t.depth ≤ n := by
  induction ts with
  | nil => simp [forestDepth]
  | cons t ts ih => rw [forestDepth, Nat.max_le, ih, List.forall_mem_cons]

/-- A tree has few levels if all its children have one less. -/
@[simp] theorem depth_le_iff {n : Nat} (a : α) (ts : List (Tree α)) :
    (node a ts).depth ≤ n + 1 ↔ ∀ t ∈ ts, t.depth ≤ n := by
  rw [depth, Nat.add_le_add_iff_right, forestDepth_le_iff]

theorem depth_pos (t : Tree α) : 0 < t.depth := by
  cases t with
  | node a ts => rw [depth]; omega

/-! ### The pre-order from a stack -/

theorem walkStack_eq_flatMap (stack : List (Tree α)) :
    walkStack stack = stack.flatMap preorder := by
  fun_induction walkStack stack with
  | case1 => rfl
  | case2 t rest ih =>
    obtain ⟨a, ts⟩ := t
    rw [ih, children_node, List.flatMap_append, List.flatMap_cons, preorder_node, List.cons_append]

theorem walk_eq_preorder (t : Tree α) : t.walk = t.preorder := by
  rw [walk, walkStack_eq_flatMap, List.flatMap_singleton]

/-! ### Putting every node back -/

theorem fold_node_eq_self (t : Tree α) : t.fold .node = t := by
  induction t with
  | node a ts ih => rw [fold_node, List.map_congr_left ih, List.map_id']

end DeclSplit.Tree
