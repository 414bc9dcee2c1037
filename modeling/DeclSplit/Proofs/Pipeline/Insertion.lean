import DeclSplit.Proofs.Pipeline.Segments

/-!
# One more subtree

A subtree that is put among the children of the root brings its own declarations, which stand together
among the others.  The segments of the others change only through the table of dependencies, and only
where a new declaration has a name that they look up.

* `Ast.openDeclarationsBelow` — the declarations of a list of trees below a common root;
* `Ast.grow` — the segment of a declaration, where all declarations that have one are given;
* `Ast.grow_congr` — a segment depends on the table only at the names that it looks up;
* `Pipeline.segments_run_insert` — the old segments are unchanged, and the new ones are one block among
  them.
-/

namespace DeclSplit

namespace Ast

variable (v : Vocabulary)

/-! ### Declarations among the children of a root -/

/-- The open declarations of a list of trees that are the children of one root: a tree whose own root
is a grouping node has none. -/
def openDeclarationsBelow (ts : List Ast) : List Ast :=
  (ts.filter fun t => !v.isGrouping (kind t)).flatMap (openDeclarations v)

theorem openDeclarationsBelow_append (ts us : List Ast) :
    openDeclarationsBelow v (ts ++ us) = openDeclarationsBelow v ts ++ openDeclarationsBelow v us := by
  rw [openDeclarationsBelow, List.filter_append, List.flatMap_append]
  rfl

/-- A root that is no declaration itself has the open declarations below it. -/
theorem openDeclarations_node {label : Label} (h : v.isDeclaration label.kind = false)
    (ts : List Ast) : openDeclarations v (.node label ts) = openDeclarationsBelow v ts := by
  have hroot : v.isDeclaration (kind (.node label ts)) = false := h
  rw [openDeclarations, Tree.openSubtrees_node, List.filter_cons_of_neg (by simp [hroot]),
    List.filter_flatMap]
  rfl

/-! ### Segments -/

/-- The segment of the declaration `d`, where `ds` are all declarations that have one. -/
def grow (ds : List Ast) (d : Ast) : Ir String :=
  (outline v d).expand (.ofSegments (ds.map (outline v)))

theorem segments_run_eq_map (ast : Ast) :
    (Pipeline.run v .segments ast).segments =
      (openDeclarations v ast).map (grow v (openDeclarations v ast)) := by
  show Ir.resolve (((Ir.build v ast).optimize v).segments v) = _
  rw [optimize_build, segments_outline, Ir.resolve, Ir.resolveWith, List.map_map]
  rfl

theorem forall₂_isSegment_grow (ds es : List Ast) :
    List.Forall₂ (IsSegment v ds) es (es.map (grow v ds)) := by
  rw [List.forall₂_map_right_iff, List.forall₂_same]
  intro d _
  exact isSegment_expand v ds d

theorem dependencies_outline (t : Ast) : (outline v t).dependencies = .ofList t.childNames := by
  rw [Ir.dependencies, ← prune_ofAst, Tree.label_prune, label_ofAst]

/-- Only the last declarations of the names of its children decide on a segment. -/
theorem grow_congr {ds es : List Ast} {d : Ast}
    (h : ∀ m ∈ d.childNames, ds.filter (fun e => e.name = m) = es.filter fun e => e.name = m) :
    grow v ds d = grow v es d := by
  refine Ir.expand_congr fun m hm => ?_
  rw [dependencies_outline, NameSet.mem_ofList] at hm
  rw [get_ofSegments_outline, get_ofSegments_outline, h m hm]

/-- Declarations that are put among others leave the segments of those that do not look them up. -/
theorem grow_insert {first block last : List Ast} {d : Ast}
    (h : ∀ e ∈ block, e.name ∉ d.childNames) :
    grow v (first ++ block ++ last) d = grow v (first ++ last) d := by
  refine grow_congr v fun m hm => ?_
  have hblock : block.filter (fun e => e.name = m) = [] := by
    rw [List.filter_eq_nil_iff]
    intro e he hname
    rw [decide_eq_true_iff] at hname
    exact h e he (hname ▸ hm)
  rw [List.filter_append, List.filter_append, hblock, List.append_nil, List.filter_append]

theorem map_grow_insert {first block last : List Ast}
    (h : ∀ e ∈ block, ∀ d ∈ first ++ last, e.name ∉ d.childNames) :
    (first ++ block ++ last).map (grow v (first ++ block ++ last)) =
      first.map (grow v (first ++ last)) ++ block.map (grow v (first ++ block ++ last)) ++
        last.map (grow v (first ++ last)) := by
  have hold : ∀ d ∈ first ++ last,
      grow v (first ++ block ++ last) d = grow v (first ++ last) d := by
    intro d hd
    exact grow_insert v fun e he => h e he d hd
  have hfirst : first.map (grow v (first ++ block ++ last)) = first.map (grow v (first ++ last)) :=
    List.map_congr_left fun d hd => hold d (List.mem_append_left last hd)
  have hlast : last.map (grow v (first ++ block ++ last)) = last.map (grow v (first ++ last)) :=
    List.map_congr_left fun d hd => hold d (List.mem_append_right first hd)
  rw [List.map_append, List.map_append, hfirst, hlast]

end Ast

/-- One more tree among the children of a root that is no declaration: its segments are one block, which
stands after the segments of the children before it.  If none of them has a name that an old
declaration looks up, all other segments are the old ones. -/
theorem Pipeline.segments_run_insert (v : Vocabulary) (label : Ast.Label) (before after : List Ast)
    (x : Ast) (hroot : v.isDeclaration label.kind = false)
    (hnames : ∀ e ∈ Ast.openDeclarationsBelow v [x],
      ∀ d ∈ Ast.openDeclarations v (.node label (before ++ after)), e.name ∉ d.childNames) :
    ∃ first block last : List (Ir String),
      (run v .segments (.node label (before ++ after))).segments = first ++ last ∧
      (run v .segments (.node label (before ++ x :: after))).segments = first ++ block ++ last ∧
      List.Forall₂ (IsSegment v (Ast.openDeclarations v (.node label (before ++ x :: after))))
        (Ast.openDeclarationsBelow v [x]) block ∧
      List.Forall₂ (IsSegment v (Ast.openDeclarations v (.node label (before ++ after))))
        (Ast.openDeclarationsBelow v before) first ∧
      List.Forall₂ (IsSegment v (Ast.openDeclarations v (.node label (before ++ after))))
        (Ast.openDeclarationsBelow v after) last := by
  have hold : Ast.openDeclarations v (.node label (before ++ after)) =
      Ast.openDeclarationsBelow v before ++ Ast.openDeclarationsBelow v after := by
    rw [Ast.openDeclarations_node v hroot, Ast.openDeclarationsBelow_append]
  have hnew : Ast.openDeclarations v (.node label (before ++ x :: after)) =
      Ast.openDeclarationsBelow v before ++ Ast.openDeclarationsBelow v [x] ++
        Ast.openDeclarationsBelow v after := by
    rw [Ast.openDeclarations_node v hroot, List.append_cons, Ast.openDeclarationsBelow_append,
      Ast.openDeclarationsBelow_append]
  rw [hold] at hnames
  rw [Ast.segments_run_eq_map, Ast.segments_run_eq_map, hold, hnew]
  exact ⟨_, _, _, List.map_append, Ast.map_grow_insert v hnames, Ast.forall₂_isSegment_grow v _ _,
    Ast.forall₂_isSegment_grow v _ _, Ast.forall₂_isSegment_grow v _ _⟩

/-- A second function `f` with a structure inside it, put between a function `f` that depends on `g`
and the function `g`: its block has two segments, and neither old segment looks up a name of it. -/
theorem Pipeline.segments_run_insert_second_function :
    let f : Ast := .node ⟨"FunctionDecl", "f"⟩ [.node ⟨"DeclRefExpr", "g"⟩ []]
    let g : Ast := .node ⟨"FunctionDecl", "g"⟩ [.node ⟨"ParmDecl", "h"⟩ []]
    let x : Ast := .node ⟨"FunctionDecl", "f"⟩
      [.node ⟨"StructDecl", "s"⟩ [], .node ⟨"CompoundStmt", ""⟩ [.node ⟨"FunctionDecl", "g"⟩ []]]
    let old : Ast := .node ⟨"TranslationUnit", "a.c"⟩ ([f] ++ [g])
    let new : Ast := .node ⟨"TranslationUnit", "a.c"⟩ ([f] ++ x :: [g])
    (∀ e ∈ Ast.openDeclarationsBelow .standard [x], ∀ d ∈ Ast.openDeclarations .standard old,
      e.name ∉ d.childNames) ∧
    ∃ first block last : List (Ir String),
      (run .standard .segments old).segments = first ++ last ∧
      (run .standard .segments new).segments = first ++ block ++ last ∧
      List.Forall₂ (IsSegment .standard (Ast.openDeclarations .standard new))
        (Ast.openDeclarationsBelow .standard [x]) block ∧
      List.Forall₂ (IsSegment .standard (Ast.openDeclarations .standard old))
        (Ast.openDeclarationsBelow .standard [f]) first ∧
      List.Forall₂ (IsSegment .standard (Ast.openDeclarations .standard old))
        (Ast.openDeclarationsBelow .standard [g]) last := by
  intro f g x old new
  have hnames : ∀ e ∈ Ast.openDeclarationsBelow .standard [x],
      ∀ d ∈ Ast.openDeclarations .standard old, e.name ∉ d.childNames := by decide +kernel
  exact ⟨hnames, segments_run_insert .standard ⟨"TranslationUnit", "a.c"⟩ [f] [g] x
    (by decide +kernel) hnames⟩

end DeclSplit
