/-!
# Labelled trees

A finite tree whose nodes carry a label and an ordered list of subtrees.  Syntax trees, cursor
trees and the intermediate representation are all trees of this one shape, so what concerns the
shape alone is said here once:

* `Tree.size`, `Tree.depth` — how many nodes, how many levels;
* `Tree.preorder` — the subtrees, each before those inside it, from left to right;
* `Tree.fold`, `Tree.map` — recursion on the tree;
* `Tree.prune` — leave out every subtree below the root whose label is refused;
* `Tree.positions`, `Tree.at?`, `Tree.modifyAt` — nodes named by child indices from the root.
-/

namespace DeclSplit

/-- A node with its label and its subtrees in order. -/
inductive Tree (α : Type) where
  | node (label : α) (children : List (Tree α))
  deriving Repr, Inhabited

namespace Tree

variable {α β : Type}

/-- The label of the root. -/
def label : Tree α → α
  | .node a _ => a

/-- The subtrees directly below the root. -/
def children : Tree α → List (Tree α)
  | .node _ ts => ts

@[simp] theorem label_node (a : α) (ts : List (Tree α)) : (node a ts).label = a := rfl

@[simp] theorem children_node (a : α) (ts : List (Tree α)) : (node a ts).children = ts := rfl

@[simp] theorem node_label_children (t : Tree α) : node t.label t.children = t := by
  cases t; rfl

/-! ### Equality -/

mutual

/-- Trees are compared node by node. -/
def decEq [DecidableEq α] : (t u : Tree α) → Decidable (t = u)
  | .node a ts, .node b us =>
    if hab : a = b then
      match forestDecEq ts us with
      | .isTrue h => .isTrue (by rw [hab, h])
      | .isFalse h => .isFalse fun e => h (by injection e)
    else
      .isFalse fun e => hab (by injection e)

/-- Lists of trees are compared place by place. -/
def forestDecEq [DecidableEq α] : (ts us : List (Tree α)) → Decidable (ts = us)
  | [], [] => .isTrue rfl
  | [], _ :: _ => .isFalse nofun
  | _ :: _, [] => .isFalse nofun
  | t :: ts, u :: us =>
    match decEq t u with
    | .isTrue htu =>
      match forestDecEq ts us with
      | .isTrue h => .isTrue (by rw [htu, h])
      | .isFalse h => .isFalse fun e => h (by injection e)
    | .isFalse h => .isFalse fun e => h (by injection e)

end

instance [DecidableEq α] : DecidableEq (Tree α) := decEq

/-! ### Measures -/

mutual

/-- The number of nodes. -/
def size : Tree α → Nat
  | .node _ ts => forestSize ts + 1

/-- The number of nodes of a list of trees. -/
def forestSize : List (Tree α) → Nat
  | [] => 0
  | t :: ts => t.size + forestSize ts

end

theorem size_eq (t : Tree α) : t.size = forestSize t.children + 1 := by
  cases t; rw [size]; rfl

@[simp] theorem forestSize_nil : forestSize ([] : List (Tree α)) = 0 := by rw [forestSize]

@[simp] theorem forestSize_cons (t : Tree α) (ts : List (Tree α)) :
    forestSize (t :: ts) = t.size + forestSize ts := by rw [forestSize]

@[simp] theorem forestSize_append (ts us : List (Tree α)) :
    forestSize (ts ++ us) = forestSize ts + forestSize us := by
  induction ts with
  | nil => simp
  | cons t ts ih => simp [ih]; omega

mutual

/-- The number of levels; a lone node has one. -/
def depth : Tree α → Nat
  | .node _ ts => forestDepth ts + 1

/-- The number of levels of the deepest of a list of trees, none for no tree. -/
def forestDepth : List (Tree α) → Nat
  | [] => 0
  | t :: ts => max t.depth (forestDepth ts)

end

/-! ### Recursion -/

mutual

/-- The value that `f` gives the root from its label and the values of its subtrees. -/
def fold (f : α → List β → β) : Tree α → β
  | .node a ts => f a (forestFold f ts)

/-- The values of a list of trees. -/
def forestFold (f : α → List β → β) : List (Tree α) → List β
  | [] => []
  | t :: ts => t.fold f :: forestFold f ts

end

/-- The tree of the same shape with every label changed by `f`. -/
def map (f : α → β) (t : Tree α) : Tree β :=
  t.fold fun a ts => .node (f a) ts

/-! ### Subtrees in order -/

mutual

/-- Every subtree, the whole first, then those of each child in turn. -/
def preorder : Tree α → List (Tree α)
  | .node a ts => .node a ts :: forestPreorder ts

/-- The subtrees of a list of trees, tree by tree. -/
def forestPreorder : List (Tree α) → List (Tree α)
  | [] => []
  | t :: ts => t.preorder ++ forestPreorder ts

end

/-- The labels in pre-order. -/
def labels (t : Tree α) : List α :=
  t.preorder.map label

/-! ### Pruning -/

mutual

/-- The tree without the subtrees below the root whose label is refused; the root stays. -/
def prune (refused : α → Bool) : Tree α → Tree α
  | .node a ts => .node a (forestPrune refused ts)

/-- The trees whose root is not refused, each pruned. -/
def forestPrune (refused : α → Bool) : List (Tree α) → List (Tree α)
  | [] => []
  | t :: ts =>
    if refused t.label then forestPrune refused ts
    else t.prune refused :: forestPrune refused ts

end

/-! ### Positions

A position is the list of child indices that leads from the root to a node. -/

mutual

/-- The positions of all nodes, in pre-order. -/
def positions : Tree α → List (List Nat)
  | .node _ ts => [] :: forestPositions 0 ts

/-- The positions of the nodes of a list of trees, of which the first is child `i`. -/
def forestPositions (i : Nat) : List (Tree α) → List (List Nat)
  | [] => []
  | t :: ts => t.positions.map (i :: ·) ++ forestPositions (i + 1) ts

end

/-- The subtree at a position, if there is one. -/
def at? (t : Tree α) : List Nat → Option (Tree α)
  | [] => some t
  | i :: p => t.children[i]?.bind (·.at? p)

/-- The tree with the subtree at a position changed by `f`; unchanged where there is none. -/
def modifyAt (f : Tree α → Tree α) : List Nat → Tree α → Tree α
  | [], t => f t
  | i :: p, .node a ts => .node a (ts.modify i (modifyAt f p))

end Tree

end DeclSplit
