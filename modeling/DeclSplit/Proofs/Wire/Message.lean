import DeclSplit.Wire.Message
import DeclSplit.Proofs.Tree.Collapse
import DeclSplit.Proofs.Tree.Growth

/-!
# Filling a message

A message grows along the tree that it is filled from, and a child is blank until its turn.

* `Wire.fill_eq_merge` — a message is filled node by node with what the merge of the tree gives;
* `Wire.toAst_eq` — a message is a tree if it has no more than the allowed levels;
* `Wire.toAst_foldl_fill` — the tree of a message that was filled several times over.
-/

namespace DeclSplit.Wire

theorem merge_blank (t : Ast) : merge blank t = t := by
  rw [merge, blank, Tree.children_node, List.nil_append, Tree.node_label_children]

/-- A node gets the fields of the tree when its turn comes, and has none before. -/
def filling : Tree.Growth Ast.Label where
  relabel a _ := a
  fresh _ := ⟨"", ""⟩
  relabel_fresh _ := rfl

theorem fillStack_eq_finishAll (message : Ast) (stack : List (List Nat × Ast)) :
    fillStack message stack = filling.finishAll message stack := by
  fun_induction fillStack message stack with
  | case1 message => rfl
  | case2 message position tree rest first ih =>
    have hstep : filling.finishAll (message.modifyAt (fillNode tree) position)
        (Tree.pendingChildren position first tree) = message.modifyAt (filling.finish tree) position :=
      filling.finishAll_pendingChildren message tree position
    rw [ih, Tree.Growth.finishAll_append, hstep]
    rfl

/-- A message is filled node by node with what the merge of the tree gives. -/
theorem fill_eq_merge (message tree : Ast) : fill message tree = merge message tree := by
  rw [fill, fillStack_eq_finishAll]
  rfl

/-- A message is a tree if it has no more than the allowed levels. -/
theorem toAst_eq (message : Ast) :
    toAst message = if message.depth ≤ maxLevels then some message else none := by
  rw [toAst, Tree.collapseWithin_eq (by decide), Tree.fold_node_eq_self]

/-! ### Several trees -/

/-- A message that was filled from several trees has the label of the last one, and after its own
children those of all trees. -/
theorem foldl_fill (message : Ast) (ts : List Ast) (t : Ast) :
    (ts ++ [t]).foldl fill message =
      .node t.label (message.children ++ (ts ++ [t]).flatMap Tree.children) := by
  induction ts generalizing message with
  | nil =>
    rw [List.nil_append, List.foldl_cons, List.foldl_nil, fill_eq_merge, merge,
      List.flatMap_singleton]
  | cons u ts ih =>
    rw [List.cons_append, List.foldl_cons, ih, fill_eq_merge, merge, Tree.children_node,
      List.flatMap_cons, List.append_assoc]

/-- Trees whose children stand below one root are together as deep as the deepest of them. -/
theorem depth_node_flatMap_le_iff {n : Nat} (label : Ast.Label) (ts : List Ast) :
    (Tree.node label (ts.flatMap Tree.children)).depth ≤ n + 1 ↔ ∀ t ∈ ts, t.depth ≤ n + 1 := by
  rw [Tree.depth_le_iff, List.forall_mem_flatMap]
  refine forall_congr' fun t => imp_congr Iff.rfl ?_
  rw [← Tree.depth_le_iff t.label, Tree.node_label_children]

/-- A message that was filled from several trees, one after the other, is the tree with the label of the
last one, also where that is empty, and with the children of all of them in order; but it is no tree if
one of them has more than a hundred levels. -/
theorem toAst_foldl_fill (ts : List Ast) (t : Ast) :
    toAst ((ts ++ [t]).foldl fill blank) =
      if ∀ u ∈ ts ++ [t], u.depth ≤ 100 then
        some (.node t.label ((ts ++ [t]).flatMap Tree.children))
      else none := by
  have hmessage : (ts ++ [t]).foldl fill blank =
      .node t.label ((ts ++ [t]).flatMap Tree.children) := by
    rw [foldl_fill, blank, Tree.children_node, List.nil_append]
  rw [hmessage, toAst_eq]
  simp only [maxLevels, depth_node_flatMap_le_iff (n := 99)]

end DeclSplit.Wire
