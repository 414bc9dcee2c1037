import DeclSplit.Pipeline
import DeclSplit.Proofs.Ir.Build
import DeclSplit.Proofs.Ir.Dependencies
import DeclSplit.Proofs.Ir.Segment
import Mathlib.Data.List.Forall2

/-!
# The segments of a syntax tree

What the last stage yields is said here of the syntax tree alone, without any of the stages:

* `Ast.openDeclarations` — the declarations that no grouping node hides;
* `Ast.outline` — a syntax tree without its grouping nodes, each node with its mark and the names of
  all its children;
* `IsSegment` — what the segment of a declaration is;
* `Pipeline.segments_run` — there is one segment for each open declaration, in pre-order.
-/

namespace DeclSplit

namespace Ast

/-- The names of the children of the root, those of grouping nodes included. -/
def childNames (ast : Ast) : List String :=
  ast.children.map name

/-- The nodes of a declaration kind, in pre-order, for which there is no node of the grouping kind on
the way from the root, the root left out and the node itself included. -/
def openDeclarations (v : Vocabulary) (ast : Ast) : List Ast :=
  (ast.openSubtrees fun label => v.isGrouping label.kind).filter fun d => v.isDeclaration (kind d)

mutual

/-- A syntax tree without the grouping nodes below its root and all that is below them.  A node is
marked if its kind is a branch kind, and depends on the names of all its children. -/
def outline (v : Vocabulary) : Ast → Ir String
  | .node label children =>
    .node
      ⟨label.kind, label.name, if v.isBranch label.kind then some .branch else none,
        .ofList (children.map name)⟩
      (outlines v children)

/-- The outlines of the trees whose root is no grouping node. -/
def outlines (v : Vocabulary) : List Ast → List (Ir String)
  | [] => []
  | t :: ts => if v.isGrouping (kind t) then outlines v ts else outline v t :: outlines v ts

end

end Ast

/-- What the segment `s` of the declaration `d` is, where `ds` are all declarations that have one. -/
structure IsSegment (v : Vocabulary) (ds : List Ast) (d : Ast) (s : Ir String) : Prop where
  kind_eq : s.kind = d.kind
  name_eq : s.name = d.name
  controlFlow_eq : s.label.controlFlow = if v.isBranch d.kind then some .branch else none
  /-- Below its root a segment is what the declaration is, without the grouping nodes. -/
  children_eq : s.children = Ast.outlines v d.children
  /-- The root depends on its children, and for each of their names on the children of the last
  declaration of that name. -/
  mem_dependencies : ∀ n, n ∈ s.dependencies ↔
    n ∈ d.childNames ∨ ∃ m ∈ d.childNames, ∃ e,
      (ds.filter fun e => e.name = m).getLast? = some e ∧ n ∈ e.childNames

namespace Ast

variable (v : Vocabulary)

/-! ### Outlines -/

theorem outlines_eq_map (ts : List Ast) :
    outlines v ts = (ts.filter fun t => !v.isGrouping (kind t)).map (outline v) := by
  induction ts with
  | nil => rw [outlines, List.filter_nil, List.map_nil]
  | cons t ts ih =>
    rw [outlines, ih]
    split
    next h => rw [List.filter_cons_of_neg (by simp [h])]
    next h => rw [List.filter_cons_of_pos (by simp [h]), List.map_cons]

theorem label_ofAst (t : Ast) :
    (Ir.ofAst v t).label = ⟨t.kind, t.name, if v.isBranch t.kind then some .branch else none,
      .ofList t.childNames⟩ := by
  have hname : Ir.name ∘ Ir.ofAst v = name := by
    funext c
    rw [Function.comp_apply, Ir.name, Ir.ofAst_eq]
    rfl
  rw [Ir.ofAst_eq, Ir.ofNode, Tree.label_node, List.map_map, hname]
  rfl

theorem children_ofAst (t : Ast) : (Ir.ofAst v t).children = t.children.map (Ir.ofAst v) := by
  rw [Ir.ofAst_eq]
  rfl

theorem isGrouping_ofAst (t : Ast) : v.isGrouping (Ir.ofAst v t).label.kind = v.isGrouping t.kind := by
  rw [label_ofAst]

/-- The outline of a tree is its intermediate tree, pruned. -/
theorem prune_ofAst (t : Ast) :
    (Ir.ofAst v t).prune (fun label => v.isGrouping label.kind) = outline v t := by
  induction t using Tree.induction with
  | node label ts ih =>
    rw [← Tree.node_label_children (Ir.ofAst v (.node label ts)), Tree.prune_node, children_ofAst,
      label_ofAst, Tree.children_node, List.filter_map, List.map_map, outline, outlines_eq_map]
    simp only [Function.comp_def, isGrouping_ofAst]
    rw [List.map_congr_left fun t ht => ih t (List.mem_of_mem_filter ht)]
    rfl

theorem kind_outline (t : Ast) : (outline v t).label.kind = t.kind := by
  rw [← prune_ofAst, Tree.label_prune, label_ofAst]

/-- The intermediate tree of a syntax tree has the same ways. -/
theorem openSubtrees_ofAst (t : Ast) :
    (Ir.ofAst v t).openSubtrees (fun label => v.isGrouping label.kind) =
      (t.openSubtrees fun label => v.isGrouping label.kind).map (Ir.ofAst v) := by
  induction t using Tree.induction with
  | node label ts ih =>
    rw [Ir.ofAst_node, Ir.ofNode, Tree.openSubtrees_node, Tree.openSubtrees_node, List.filter_map,
      List.flatMap_map, List.map_cons, List.map_flatMap, Ir.ofAst_node, Ir.ofNode]
    simp only [Function.comp_def, isGrouping_ofAst]
    congr 1
    exact List.flatMap_congr fun t ht => ih t (List.mem_of_mem_filter ht)

/-! ### The stages -/

theorem optimize_build (ast : Ast) : (Ir.build v ast).optimize v = outline v ast := by
  rw [Ir.build_eq_ofAst, Ir.optimize, Ir.optimizeWhere, Tree.pruneInPlace_eq_prune, prune_ofAst]

/-- The segments before their dependencies are resolved. -/
theorem segments_outline (ast : Ast) :
    (outline v ast).segments v = (openDeclarations v ast).map (outline v) := by
  rw [Ir.segments, Ir.segmentsWhere_eq_filter, ← prune_ofAst, Tree.preorder_prune,
    openSubtrees_ofAst, List.map_map, List.filter_map, openDeclarations]
  simp only [Function.comp_def, prune_ofAst, kind_outline]

theorem get_ofSegments_outline (ds : List Ast) (m : String) :
    (DependencyTable.ofSegments (ds.map (outline v))).get m =
      (((ds.filter fun e => e.name = m).getLast?).map fun e => .ofList e.childNames).getD ∅ := by
  have hname : ∀ t : Ast, Ir.name (outline v t) = t.name := fun t => by
    rw [Ir.name, ← prune_ofAst, Tree.label_prune, label_ofAst]
  have hdeps : ∀ t : Ast, Ir.dependencies (outline v t) = .ofList t.childNames := fun t => by
    rw [Ir.dependencies, ← prune_ofAst, Tree.label_prune, label_ofAst]
  rw [DependencyTable.get_ofSegments, List.filter_map, List.getLast?_map, Option.map_map]
  simp only [Function.comp_def, hname, hdeps]

/-- The outline of a declaration becomes its segment when its dependencies are grown. -/
theorem isSegment_expand (ds : List Ast) (d : Ast) :
    IsSegment v ds d ((outline v d).expand (.ofSegments (ds.map (outline v)))) := by
  obtain ⟨label, children⟩ := d
  refine ⟨?_, ?_, ?_, ?_, fun n => ?_⟩
  · rw [outline]; rfl
  · rw [outline]; rfl
  · rw [outline]; rfl
  · rw [outline]; rfl
  · have hnames : Ir.dependencies (outline v (.node label children)) =
        .ofList (childNames (.node label children)) := by rw [outline]; rfl
    rw [Ir.mem_dependencies_expand, hnames]
    simp only [NameSet.mem_ofList, get_ofSegments_outline]
    refine or_congr Iff.rfl (exists_congr fun m => and_congr Iff.rfl ?_)
    cases (ds.filter fun e => e.name = m).getLast? with
    | none => simp
    | some e => simp

end Ast

/-- The last stage yields one segment for each open declaration, in pre-order. -/
theorem Pipeline.segments_run (v : Vocabulary) (ast : Ast) :
    List.Forall₂ (IsSegment v (ast.openDeclarations v)) (ast.openDeclarations v)
      (Pipeline.run v .segments ast).segments := by
  show List.Forall₂ _ _ (Ir.resolve (((Ir.build v ast).optimize v).segments v))
  rw [Ast.optimize_build, Ast.segments_outline, Ir.resolve, Ir.resolveWith, List.map_map,
    List.forall₂_map_right_iff, List.forall₂_same]
  intro d _
  exact Ast.isSegment_expand v (ast.openDeclarations v) d

end DeclSplit
