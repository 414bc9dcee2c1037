import DeclSplit.Pipeline
import DeclSplit.Proofs.Ir.Build
import DeclSplit.Proofs.Ir.Dependencies
import DeclSplit.Proofs.Ir.Segment
import DeclSplit.Proofs.Tree.Relabelling
import Mathlib.Logic.Equiv.Basic

/-!
# Other names

The stages compare names with each other and do nothing else with them.  So it makes no difference
whether the names are replaced before a run or in what it yields, as long as different names stay
different.

* `Ast.rename`, `Ir.rename`, `Pipeline.rename` — every name replaced, also where it is a dependency;
* `Ir.build_rename`, `Ir.optimize_rename`, `Ir.segments_rename`, `Ir.resolve_rename` — each stage;
* `Pipeline.run_rename` — a run up to any stage.

Only the last stage looks up names, so only there must different names stay different.
-/

namespace DeclSplit

/-! ### Replacing names -/

/-- The syntax tree with every name replaced. -/
def Ast.rename (r : String → String) (t : Ast) : Ast :=
  t.map fun label => { label with name := r label.name }

section Definitions

variable {κ : Type} [Ord κ] [Std.TransOrd κ] (r : κ → κ)

/-- The label with the name of the node and those that it depends on replaced. -/
def Ir.Label.rename (label : Label κ) : Label κ :=
  { label with name := r label.name, dependencies := label.dependencies.map r }

/-- The tree with every name and every dependency replaced. -/
def Ir.rename (t : Ir κ) : Ir κ :=
  t.map (Label.rename r)

/-- The table with the names of its entries and their dependencies replaced. -/
def DependencyTable.rename (table : DependencyTable κ) : DependencyTable κ :=
  table.map fun entry => (r entry.1, entry.2.map r)

end Definitions

/-- What a run yields with every name and every dependency replaced. -/
def Pipeline.rename (r : String → String) (p : Pipeline) : Pipeline :=
  ⟨p.ir.rename r, p.segments.map (Ir.rename r)⟩

namespace Ir

section Labels

variable {κ : Type} [Ord κ] [Std.TransOrd κ] (r : κ → κ)

theorem label_rename (t : Ir κ) : (t.rename r).label = t.label.rename r :=
  Tree.label_map _ t

@[simp] theorem kind_rename (t : Ir κ) : (t.rename r).label.kind = t.label.kind := by
  rw [label_rename]
  rfl

@[simp] theorem name_rename (t : Ir κ) : (t.rename r).name = r t.name := by
  rw [name, label_rename]
  rfl

@[simp] theorem dependencies_rename (t : Ir κ) :
    (t.rename r).dependencies = t.dependencies.map r := by
  rw [dependencies, label_rename]
  rfl

end Labels

/-! ### Building, pruning and splitting -/

section Stages

variable (v : Vocabulary) (r : String → String)

theorem ofNode_rename (label : Ast.Label) (children : List (Ir String)) :
    ofNode v { label with name := r label.name } (children.map (rename r)) =
      (ofNode v label children).rename r := by
  have hnames : (children.map (rename r)).map name = (children.map name).map r := by
    rw [List.map_map, List.map_map]
    exact List.map_congr_left fun t _ => name_rename r t
  rw [ofNode, ofNode, hnames, rename, Tree.map_node, Label.rename, NameSet.map_ofList]
  rfl

theorem ofAst_rename (ast : Ast) : ofAst v (ast.rename r) = (ofAst v ast).rename r := by
  induction ast using Tree.induction with
  | node label children ih =>
    have hchildren : (children.map (Ast.rename r)).map (ofAst v) =
        (children.map (ofAst v)).map (rename r) := by
      rw [List.map_map, List.map_map]
      exact List.map_congr_left ih
    rw [ofAst_node, ← ofNode_rename, ← hchildren, Ast.rename, Tree.map_node, ofAst_node]
    rfl

theorem build_rename (ast : Ast) : build v (ast.rename r) = (build v ast).rename r := by
  rw [build_eq_ofAst, build_eq_ofAst, ofAst_rename]

theorem optimize_rename (t : Ir String) : (t.rename r).optimize v = (t.optimize v).rename r := by
  -- the test looks at kinds only, so it refuses the same labels before and after
  show (t.map (Label.rename r)).pruneInPlace (fun label => v.isGrouping label.kind) = _
  rw [Tree.pruneInPlace_map]
  rfl

theorem segments_rename (t : Ir String) :
    (t.rename r).segments v = (t.segments v).map (rename r) := by
  have hkind : ((fun s : Ir String => v.isDeclaration s.label.kind) ∘ rename r) =
      fun s : Ir String => v.isDeclaration s.label.kind := by
    funext s
    show v.isDeclaration (s.rename r).label.kind = _
    rw [kind_rename]
  have hpreorder : (t.rename r).preorder = t.preorder.map (rename r) :=
    Tree.preorder_map (Label.rename r) t
  rw [segments, segments, segmentsWhere_eq_filter, segmentsWhere_eq_filter, hpreorder,
    List.filter_map, hkind]

end Stages

end Ir

/-! ### Looking up -/

section Lookup

variable {κ : Type} [Ord κ] [Std.TransOrd κ] [Std.LawfulEqOrd κ] {r : κ → κ}

omit [Std.TransOrd κ] in
theorem compare_rename (hr : Function.Injective r) (a b : κ) :
    (compare (r a) (r b) == .eq) = (compare a b == .eq) := by
  rw [Bool.eq_iff_iff, beq_iff_eq, beq_iff_eq, Std.LawfulEqCmp.compare_eq_iff_eq,
    Std.LawfulEqCmp.compare_eq_iff_eq]
  exact hr.eq_iff

namespace DependencyTable

/-- A name is looked up among other names as it was before. -/
theorem get_rename (hr : Function.Injective r) (table : DependencyTable κ) (n : κ) :
    get (table.rename r) (r n) = (get table n).map r := by
  rw [get_eq, get_eq, rename, ← List.map_reverse, List.find?_map, Option.map_map]
  simp only [Function.comp_def, compare_rename hr]
  cases table.reverse.find? fun entry => compare n entry.1 == .eq with
  | none => rfl
  | some entry => rfl

theorem reached_rename (hr : Function.Injective r) (table : DependencyTable κ)
    (names : NameSet κ) : (table.rename r).reached (names.map r) = (table.reached names).map r := by
  refine NameSet.ext_mem fun x => ?_
  simp only [mem_reached, NameSet.mem_map]
  constructor
  · rintro ⟨_, ⟨n, hn, rfl⟩, hx⟩
    rw [get_rename hr, NameSet.mem_map] at hx
    obtain ⟨m, hm, rfl⟩ := hx
    exact ⟨m, ⟨n, hn, hm⟩, rfl⟩
  · rintro ⟨m, ⟨n, hn, hm⟩, rfl⟩
    refine ⟨r n, ⟨n, hn, rfl⟩, ?_⟩
    rw [get_rename hr]
    exact NameSet.mem_map.2 ⟨m, hm, rfl⟩

omit [Std.LawfulEqOrd κ] in
theorem ofSegments_rename (segments : List (Ir κ)) :
    ofSegments (segments.map (Ir.rename r)) = (ofSegments segments).rename r := by
  rw [ofSegments, ofSegments, rename, List.map_map, List.map_map]
  refine List.map_congr_left fun s _ => ?_
  show ((s.rename r).name, (s.rename r).dependencies) = (r s.name, s.dependencies.map r)
  rw [Ir.name_rename, Ir.dependencies_rename]

end DependencyTable

namespace Ir

theorem expand_rename (hr : Function.Injective r) (table : DependencyTable κ) (s : Ir κ) :
    (s.rename r).expand (table.rename r) = (s.expand table).rename r := by
  obtain ⟨label, children⟩ := s
  have hgrown : label.dependencies.map r ∪ (table.rename r).reached (label.dependencies.map r) =
      (label.dependencies ∪ table.reached label.dependencies).map r := by
    rw [DependencyTable.reached_rename hr, NameSet.map_union]
  rw [rename, Tree.map_node, expand, mapRoot, Tree.label_node, Tree.children_node, Label.rename]
  dsimp only
  rw [hgrown, rename, expand, mapRoot, Tree.map_node]
  rfl

theorem resolve_rename (hr : Function.Injective r) (segments : List (Ir κ)) :
    resolve (segments.map (rename r)) = (resolve segments).map (rename r) := by
  rw [resolve, resolve, resolveWith, resolveWith, DependencyTable.ofSegments_rename, List.map_map,
    List.map_map]
  exact List.map_congr_left fun s _ => expand_rename hr _ s

end Ir

end Lookup

/-- A run on a syntax tree with other names yields what a run on the tree itself yields, with the other
names: the same trees of the same shapes, with the same kinds and marks, in the same order. -/
theorem Pipeline.run_rename {r : String → String} (hr : Function.Injective r) (v : Vocabulary)
    (stage : Stage) (ast : Ast) : run v stage (ast.rename r) = (run v stage ast).rename r := by
  have hbuilt : Ir.build v (ast.rename r) = (Ir.build v ast).rename r := Ir.build_rename v r ast
  have hpruned : (Ir.build v (ast.rename r)).optimize v = ((Ir.build v ast).optimize v).rename r := by
    rw [hbuilt, Ir.optimize_rename]
  cases stage with
  | ir =>
    show Pipeline.mk (Ir.build v (ast.rename r)) [] = ⟨(Ir.build v ast).rename r, []⟩
    rw [hbuilt]
  | optimized =>
    show Pipeline.mk ((Ir.build v (ast.rename r)).optimize v) [] =
      ⟨((Ir.build v ast).optimize v).rename r, []⟩
    rw [hpruned]
  | segments =>
    show Pipeline.mk ((Ir.build v (ast.rename r)).optimize v)
        (Ir.resolve (((Ir.build v (ast.rename r)).optimize v).segments v)) =
      ⟨((Ir.build v ast).optimize v).rename r,
        (Ir.resolve (((Ir.build v ast).optimize v).segments v)).map (Ir.rename r)⟩
    rw [hpruned, Ir.segments_rename, Ir.resolve_rename hr]

/-- The empty name changes places with `f`: the nameless structure is then looked up as `f` was, and the
functions `f`, of which the last counts, are nameless. -/
theorem Pipeline.run_rename_swap_empty :
    let r := Equiv.swap "" "f"
    let ast : Ast := .node ⟨"TranslationUnit", "a.c"⟩
      [.node ⟨"FunctionDecl", "f"⟩ [.node ⟨"ParmDecl", "x"⟩ [], .node ⟨"CompoundStmt", ""⟩ []],
        .node ⟨"StructDecl", ""⟩ [.node ⟨"FieldDecl", "f"⟩ []],
        .node ⟨"FunctionDecl", "f"⟩ [.node ⟨"ParmDecl", "y"⟩ []]]
    Function.Injective r ∧
      run .standard .segments (ast.rename r) = (run .standard .segments ast).rename r ∧
      (run .standard .segments (ast.rename r)).segments.map (fun s => (s.name, s.dependencies.toList)) =
        [("", ["", "f", "x"]), ("f", ["", "y"]), ("", ["y"])] := by
  intro r ast
  have hr : Function.Injective r := (Equiv.swap "" "f").injective
  exact ⟨hr, run_rename hr .standard .segments ast, by decide +kernel⟩

end DeclSplit
