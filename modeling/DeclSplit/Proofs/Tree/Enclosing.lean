import DeclSplit.Proofs.Tree.Subtrees
import Mathlib.Algebra.GroupWithZero.Nat

/-!
# Nodes and what encloses them

The nodes of the subtrees of some nodes can be counted in two ways: subtree by subtree, or node by node of
the tree, each as often as such a node stands on the way to it.

* `Tree.positionsOf` — the positions of the nodes whose label meets a test;
* `Tree.pathTo` — the nodes on the way from the root to a position, both ends included;
* `Tree.map_positionsOf_node` — both, one level down;
* `Tree.sum_countP_preorder` — both ways of counting give the same number.
-/

namespace DeclSplit.Tree

variable {α : Type}

/-- The positions of the nodes whose label meets a test, in pre-order. -/
def positionsOf (q : α → Bool) (t : Tree α) : List (List Nat) :=
  t.positions.filter fun p => (t.at? p).any fun s => q s.label

/-- The nodes on the way from the root to a position, both ends included. -/
def pathTo (t : Tree α) (p : List Nat) : List (Tree α) :=
  t :: t.wayTo p

/-- The positions lead to the subtrees whose label meets the test, in pre-order. -/
theorem map_at?_positionsOf (q : α → Bool) (t : Tree α) :
    (t.positionsOf q).map t.at? = (t.preorder.filter fun s => q s.label).map some := by
  have hall := congrArg (List.filter fun s : Option (Tree α) => s.any fun s => q s.label)
    (map_at?_positions t)
  rw [List.filter_map, List.filter_map] at hall
  exact hall

/-- What is asked of the ways to the nodes that meet the test, at the root and below each child. -/
theorem map_positionsOf_node {β : Type} (q : α → Bool) (f : List (Tree α) → β) (a : α)
    (ts : List (Tree α)) :
    ((node a ts).positionsOf q).map (fun p => f ((node a ts).wayTo p)) =
      (if q a then [f []] else []) ++
        ts.flatMap fun t => (t.positionsOf q).map fun p => f (t.pathTo p) := by
  have hasked : ∀ (t : Tree α) (g : List Nat → β), (t.positionsOf q).map g =
      t.positions.filterMap fun p =>
        if (t.at? p).any (fun s => q s.label) then some (g p) else none := by
    intro t g
    rw [positionsOf, ← List.filterMap_eq_map', List.filterMap_filter]
  have hbelow := filterMap_forestPositions
    (fun way s => if s.any (fun s => q s.label) then some (f way) else none) a [] ts
  rw [List.length_nil, List.nil_append] at hbelow
  simp only [hasked]
  rw [positions_node, List.filterMap_cons, hbelow]
  have hroot : ((node a ts).at? []).any (fun s => q s.label) = q a := rfl
  have hway : (node a ts).wayTo [] = [] := rfl
  rw [hroot, hway]
  cases q a with
  | true => rfl
  | false => rfl

/-! ### Counting in two ways -/

theorem countP_preorder_node (q : α → Bool) (a : α) (ts : List (Tree α)) :
    (node a ts).preorder.countP (fun s => q s.label) =
      (ts.flatMap preorder).countP (fun s => q s.label) + if q a then 1 else 0 := by
  rw [preorder_node, List.countP_cons, label_node]

theorem sum_filter_preorder_node (d : α → Bool) (f : Tree α → Nat) (a : α) (ts : List (Tree α)) :
    (((node a ts).preorder.filter fun s => d s.label).map f).sum =
      (if d a then f (node a ts) else 0) +
        (((ts.flatMap preorder).filter fun s => d s.label).map f).sum := by
  rw [preorder_node, List.filter_cons, label_node]
  cases d a with
  | true => rw [if_pos rfl, if_pos rfl, List.map_cons, List.sum_cons]
  | false => rw [if_neg Bool.false_ne_true, if_neg Bool.false_ne_true, Nat.zero_add]

/-- What is known of a tree: the nodes that meet the test `q` are as many node by node, each as often as a
node that meets the test `d` stands on the way to it, as they are subtree by subtree of such nodes.  In
the first count each node counts `k` more, for what encloses the whole tree. -/
def CountsBothWays (q d : α → Bool) (t : Tree α) : Prop :=
  ∀ k, ((t.positionsOf q).map fun p => k + (t.pathTo p).countP fun s => d s.label).sum =
    k * (t.preorder.countP fun s => q s.label) +
      ((t.preorder.filter fun s => d s.label).map fun s => s.preorder.countP fun r => q r.label).sum

theorem countsBothWays_forest {q d : α → Bool} {ts : List (Tree α)}
    (hts : ∀ t ∈ ts, t.CountsBothWays q d) (k : Nat) :
    (ts.flatMap fun t => (t.positionsOf q).map fun p =>
        k + (t.pathTo p).countP fun s => d s.label).sum =
      k * ((ts.flatMap preorder).countP fun s => q s.label) +
        (((ts.flatMap preorder).filter fun s => d s.label).map fun s =>
          s.preorder.countP fun r => q r.label).sum := by
  induction ts with
  | nil => rfl
  | cons t ts ih =>
    have hfirst := hts t List.mem_cons_self k
    have hrest := ih fun u hu => hts u (List.mem_cons_of_mem t hu)
    rw [List.flatMap_cons, List.flatMap_cons, List.sum_append, hfirst, hrest, List.countP_append,
      List.filter_append, List.map_append, List.sum_append, Nat.mul_add]
    omega

theorem countsBothWays (q d : α → Bool) (t : Tree α) : t.CountsBothWays q d := by
  induction t with
  | node a ts ih =>
    intro k
    -- what encloses a child is what encloses the tree, and the root if it meets the test `d`
    have hway : ∀ way : List (Tree α), k + (node a ts :: way).countP (fun s => d s.label) =
        k + (if d a then 1 else 0) + way.countP fun s => d s.label := by
      intro way
      rw [List.countP_cons, label_node]
      omega
    have hleft : ((node a ts).positionsOf q).map (fun p =>
          k + ((node a ts).pathTo p).countP fun s => d s.label) =
        ((node a ts).positionsOf q).map fun p =>
          k + (if d a then 1 else 0) + ((node a ts).wayTo p).countP fun s => d s.label :=
      List.map_congr_left fun p _ => hway _
    have hsplit := map_positionsOf_node q
      (fun way => k + (if d a then 1 else 0) + way.countP fun s => d s.label) a ts
    have hbelow := countsBothWays_forest ih (k + if d a then 1 else 0)
    rw [hleft, hsplit, List.sum_append, hbelow, sum_filter_preorder_node, countP_preorder_node]
    cases q a <;> cases d a <;> simp [Nat.add_mul, Nat.mul_add] <;> omega

/-- Subtree by subtree of the nodes that meet the test `d` there are as many nodes that meet the test `q`
as node by node, each as often as a node that meets the test `d` stands on the way to it. -/
theorem sum_countP_preorder (q d : α → Bool) (t : Tree α) :
    ((t.preorder.filter fun s => d s.label).map fun s =>
        s.preorder.countP fun r => q r.label).sum =
      ((t.positionsOf q).map fun p => (t.pathTo p).countP fun s => d s.label).sum := by
  have hcount := countsBothWays q d t 0
  simp only [Nat.zero_add, Nat.zero_mul] at hcount
  exact hcount.symm

end DeclSplit.Tree
