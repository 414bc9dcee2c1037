import DeclSplit.Cursor
import DeclSplit.Proofs.Tree.Collapse
import DeclSplit.Proofs.Tree.Pruning

/-!
# The syntax tree of a tree of cursors

Every cursor becomes one node, in the place of the cursor.

* `Cursor.IsSnapshot` — the syntax trees of a tree of cursors, by recursion;
* `Cursor.toAst_node` — one level of the tree that is built;
* `Cursor.isSnapshot_iff` — the tree that is built is the one syntax tree of the cursors, and it has as
  many nodes as there are cursors.
-/

namespace DeclSplit.Cursor

/-- A node for a cursor has the kind of the cursor in camel case, its spelling for a name, or the empty
name if there is no spelling, and below it nodes for the cursors below, in order. -/
inductive IsSnapshot : Cursor → Ast → Prop where
  | node {label : Label} {name : String} {cursors : List Cursor} {asts : List Ast}
      (hname : label.spelling = some name ∨ label.spelling = none ∧ name = "")
      (hchildren : List.Forall₂ IsSnapshot cursors asts) :
      IsSnapshot (.node label cursors) (.node ⟨label.kind.label, name⟩ asts)

/-! ### One level -/

theorem toAst_node (label : Label) (cursors : List Cursor) :
    toAst (.node label cursors) = .node label.toAst (cursors.map toAst) := by
  have htoAst : toAst = Tree.fold fun label children => .node label.toAst children :=
    funext fun cursor => Tree.collapse_eq_fold _ cursor
  rw [htoAst, Tree.fold_node]

theorem toAst_label_eq_iff {label : Label} {node : Ast.Label} :
    label.toAst = node ↔ node.kind = label.kind.label ∧
      (label.spelling = some node.name ∨ label.spelling = none ∧ node.name = "") := by
  obtain ⟨kind, name⟩ := node
  rw [Label.toAst, Ast.Label.mk.injEq, eq_comm]
  cases label.spelling <;> simp [eq_comm]

theorem isSnapshot_node_iff {label : Label} {node : Ast.Label} {cursors : List Cursor}
    {asts : List Ast} :
    IsSnapshot (.node label cursors) (.node node asts) ↔
      label.toAst = node ∧ List.Forall₂ IsSnapshot cursors asts := by
  rw [toAst_label_eq_iff]
  constructor
  · rintro ⟨hname, hchildren⟩
    exact ⟨⟨rfl, hname⟩, hchildren⟩
  · obtain ⟨kind, name⟩ := node
    rintro ⟨⟨rfl, hname⟩, hchildren⟩
    exact .node hname hchildren

/-! ### All levels -/

theorem isSnapshot_iff_eq (cursor : Cursor) (ast : Ast) :
    IsSnapshot cursor ast ↔ cursor.toAst = ast := by
  induction cursor using Tree.induction generalizing ast with
  | node label cursors ih =>
    obtain ⟨node, asts⟩ := ast
    have hchildren : List.Forall₂ IsSnapshot cursors asts ↔ cursors.map toAst = asts := by
      rw [Tree.forall₂_congr_of_mem fun cursor hcursor ast _ => ih cursor hcursor ast,
        ← List.forall₂_map_left_iff, List.forall₂_eq_eq_eq]
    rw [isSnapshot_node_iff, hchildren, toAst_node, Tree.node.injEq]

theorem size_toAst (cursor : Cursor) : cursor.toAst.size = cursor.size := by
  induction cursor using Tree.induction with
  | node label cursors ih =>
    have hforest : Tree.forestSize (cursors.map toAst) = Tree.forestSize cursors := by
      induction cursors with
      | nil => rfl
      | cons cursor cursors ihcursors =>
        rw [List.map_cons, Tree.forestSize_cons, Tree.forestSize_cons, ih cursor List.mem_cons_self,
          ihcursors fun c hc => ih c (List.mem_cons_of_mem cursor hc)]
    rw [toAst_node, Tree.size, Tree.size, hforest]

/-- The tree that is built from a tree of cursors is its one syntax tree, however deep it is, and a walk
on it meets as many nodes as there are cursors. -/
theorem isSnapshot_iff (cursor : Cursor) :
    (∀ ast, IsSnapshot cursor ast ↔ cursor.toAst = ast) ∧ cursor.toAst.nodeCount = cursor.size := by
  refine ⟨isSnapshot_iff_eq cursor, ?_⟩
  rw [Ast.nodeCount, Tree.walk_eq_preorder, Tree.length_preorder, size_toAst]

end DeclSplit.Cursor
