import DeclSplit.Proofs.Tree.Positions

/-!
# Trees that grow from a stack

A tree grows along another one, node by node: the node whose turn it is gets a new child for each child
of the other tree, and these children go onto the stack with what they are still to become.  Filling a
message and copying a tree are such loops.  They differ only in the labels, so what the steps of a loop
have in common is said here for any way of setting labels:

* `Tree.Growth` — which labels the nodes get;
* `Tree.Growth.finishAll` — the grown tree when the loop is over, without the steps;
* `Tree.Growth.finishAll_pendingChildren` — one step changes nothing in what the tree will become;
* `Tree.clone_eq_self` — a copy is equal to the tree.
-/

namespace DeclSplit.Tree

variable {α : Type}

/-- Which labels the nodes of a growing tree get. -/
structure Growth (α : Type) where
  /-- The label of a node when its turn is over, from the label in the other tree and the one before. -/
  relabel : α → α → α
  /-- The label of a new child until its turn, from the label in the other tree. -/
  fresh : α → α
  relabel_fresh : ∀ a, relabel a (fresh a) = a

namespace Growth

variable (g : Growth α)

/-- A node when its turn is over: its new children have no children yet. -/
def start (t grown : Tree α) : Tree α :=
  .node (g.relabel t.label grown.label)
    (grown.children ++ t.children.map fun child => .node (g.fresh child.label) [])

/-- A node when also all below it have had their turn. -/
def finish (t grown : Tree α) : Tree α :=
  .node (g.relabel t.label grown.label) (grown.children ++ t.children)

theorem finish_fresh (t : Tree α) : g.finish t (.node (g.fresh t.label) []) = t := by
  rw [finish, label_node, children_node, List.nil_append, g.relabel_fresh, node_label_children]

/-- The tree when the nodes on a stack are finished, each at its position. -/
def finishAll (grown : Tree α) (stack : List (List Nat × Tree α)) : Tree α :=
  stack.foldl (fun grown (position, t) => grown.modifyAt (g.finish t) position) grown

theorem finishAll_append (grown : Tree α) (stack rest : List (List Nat × Tree α)) :
    g.finishAll grown (stack ++ rest) = g.finishAll (g.finishAll grown stack) rest :=
  List.foldl_append

/-! ### Below a child -/

theorem finishAll_below (a : α) (before after : List (Tree α)) (grown : Tree α)
    (stack : List (List Nat × Tree α)) :
    g.finishAll (.node a (before ++ grown :: after))
        (stack.map fun (position, t) => (before.length :: position, t)) =
      .node a (before ++ g.finishAll grown stack :: after) := by
  rw [finishAll, List.foldl_map]
  exact foldl_modifyAt_below (fun (x : List Nat × Tree α) => g.finish x.2) Prod.fst a before after
    stack grown

theorem finishAll_outside (a : α) {children : List (Tree α)} {i : Nat} (hi : children.length ≤ i)
    (stack : List (List Nat × Tree α)) :
    g.finishAll (.node a children) (stack.map fun (position, t) => (i :: position, t)) =
      .node a children := by
  induction stack with
  | nil => rfl
  | cons top stack ih =>
    show g.finishAll (.node a (children.modify i _)) _ = _
    rw [List.modify_eq_self hi, ih]

theorem pendingChildren_cons (i : Nat) (position : List Nat) (first : Nat) (t : Tree α) :
    pendingChildren (i :: position) first t =
      (pendingChildren position first t).map fun (position, t) => (i :: position, t) := by
  rw [pendingChildren, pendingChildren, List.map_reverse, List.mapIdx_eq_zipIdx_map,
    List.mapIdx_eq_zipIdx_map, List.map_map]
  rfl

/-! ### One step -/

/-- New children are finished one after the other, the last one first. -/
theorem finishAll_fresh (a : α) (before children : List (Tree α)) :
    g.finishAll (.node a (before ++ children.map fun child => .node (g.fresh child.label) []))
        (children.mapIdx fun i child => ([before.length + i], child)).reverse =
      .node a (before ++ children) := by
  induction children generalizing before with
  | nil => rfl
  | cons child children ih =>
    have hafter := ih (before ++ [.node (g.fresh child.label) []])
    rw [List.length_append, List.length_singleton, List.append_assoc, List.append_assoc,
      List.singleton_append, List.singleton_append] at hafter
    have hindex : (children.mapIdx fun i c => ([before.length + (i + 1)], c)) =
        children.mapIdx fun i c => ([before.length + 1 + i], c) := by
      refine congrArg (List.mapIdx · children) ?_
      funext i c
      rw [Nat.add_assoc, Nat.add_comm 1 i]
    have hfirst := g.finishAll_below a before children (.node (g.fresh child.label) []) [([], child)]
    rw [List.map_singleton] at hfirst
    rw [List.mapIdx_cons, List.reverse_cons, finishAll_append, List.map_cons, hindex, hafter,
      Nat.add_zero, hfirst]
    show Tree.node a (before ++ g.finish child (.node (g.fresh child.label) []) :: children) = _
    rw [finish_fresh]

/-- A node that has had its turn is finished when its new children are. -/
theorem finishAll_pendingChildren (grown t : Tree α) (position : List Nat) :
    g.finishAll (grown.modifyAt (g.start t) position)
        (pendingChildren position
          (((grown.at? position).map fun c => c.children.length).getD 0) t) =
      grown.modifyAt (g.finish t) position := by
  induction position generalizing grown with
  | nil =>
    exact g.finishAll_fresh (g.relabel t.label grown.label) grown.children t.children
  | cons i position ih =>
    obtain ⟨a, children⟩ := grown
    rw [pendingChildren_cons, modifyAt, modifyAt, at?, children_node]
    rcases Nat.lt_or_ge i children.length with hi | hi
    · obtain ⟨before, child, after, rfl, rfl⟩ : ∃ before child after,
          children = before ++ child :: after ∧ before.length = i :=
        ⟨children.take i, children[i], children.drop (i + 1),
          by rw [← List.drop_eq_getElem_cons hi, List.take_append_drop],
          by rw [List.length_take, Nat.min_eq_left (Nat.le_of_lt hi)]⟩
      rw [modify_append_cons, modify_append_cons, finishAll_below,
        List.getElem?_append_right (Nat.le_refl _), Nat.sub_self, List.getElem?_cons_zero,
        Option.bind_some, ih]
    · -- there is no such child, so nothing is changed at all
      rw [List.modify_eq_self hi, List.modify_eq_self hi, List.getElem?_eq_none hi,
        finishAll_outside g a hi]

end Growth

/-! ### Copies -/

/-- A copy has the label of the node from the start. -/
def copying : Growth α where
  relabel _ b := b
  fresh a := a
  relabel_fresh _ := rfl

theorem cloneStack_eq_finishAll (copy : Tree α) (stack : List (List Nat × Tree α)) :
    cloneStack copy stack = copying.finishAll copy stack := by
  fun_induction cloneStack copy stack with
  | case1 copy => rfl
  | case2 copy position t rest first ih =>
    have hstep : copying.finishAll (copy.modifyAt (copyChildren t) position)
        (pendingChildren position first t) = copy.modifyAt (copying.finish t) position :=
      copying.finishAll_pendingChildren copy t position
    rw [ih, Growth.finishAll_append, hstep]
    rfl

/-- A copy is equal to the tree. -/
theorem clone_eq_self (t : Tree α) : t.clone = t := by
  rw [clone, cloneStack_eq_finishAll]
  exact copying.finish_fresh t

end DeclSplit.Tree
