import DeclSplit.Ir.Build
import DeclSplit.Proofs.NameSet
import DeclSplit.Proofs.Tree.Pruning
import DeclSplit.Proofs.Tree.Relabelling
import DeclSplit.Proofs.Tree.Subtrees

/-!
# What the construction with an explicit stack builds

The finished trees of all nodes that have been entered stand in one list, and a node that is left cuts
its children off at the end of it.  What stands before them is known at every step from the nodes
around it.

* `Ir.Build.after` — the state after a number of steps;
* `Ir.Build.waiting` — the finished trees that wait for the nodes around the innermost one;
* `Ir.Build.Stands` — what is known of a state, with `stands_step` for one step and `stands_after` for
  all of them;
* `Ir.Build.exists_after` — each node is entered once and left once;
* `Ir.build_eq_ofAst` — the construction builds what the recursion says;
* `Ir.IsBuilt`, `Ir.build_isBuilt` — what the last state holds.
-/

namespace DeclSplit.Ir

/-! ### The recursion -/

theorem ofAst_node (v : Vocabulary) (label : Ast.Label) (children : List Ast) :
    ofAst v (.node label children) = ofNode v label (children.map (ofAst v)) := by
  rw [ofAst, Tree.fold_node]
  rfl

theorem ofAst_eq (v : Vocabulary) (ast : Ast) :
    ofAst v ast = ofNode v ast.label (ast.children.map (ofAst v)) := by
  cases ast with
  | node label children => rw [ofAst_node, Tree.label_node, Tree.children_node]

namespace Build

/-- The state after a number of steps, if the construction goes on so long. -/
def after (v : Vocabulary) (ast : Ast) : Nat → Option Build
  | 0 => some (start ast)
  | n + 1 => (after v ast n).bind (step v)

/-- The finished trees that wait for the nodes around the innermost one, those for the outermost node
first: they belong to the children before the one that is entered. -/
def waiting (v : Vocabulary) : List (Ast × Nat) → List (Ir String)
  | [] => []
  | (node, next) :: outer => waiting v outer ++ (node.children.take (next - 1)).map (ofAst v)

/-- The nodes around a node lead from it to the root: of each, the child that was entered last is the
one before it. -/
inductive IsWay (ast : Ast) : Ast → List (Ast × Nat) → Prop where
  | root : IsWay ast ast []
  | child {inner node : Ast} {i : Nat} {outer : List (Ast × Nat)}
      (hchild : node.children[i]? = some inner) (hway : IsWay ast node outer) :
      IsWay ast inner ((node, i + 1) :: outer)

/-- What is known of a state of the construction.  While a node is entered, its own finished children
come last, after all that waits for the nodes around it. -/
inductive Stands (v : Vocabulary) (ast : Ast) : Build → Prop where
  | entered {node : Ast} {next : Nat} {outer : List (Ast × Nat)} (hway : IsWay ast node outer)
      (hnext : next ≤ node.children.length) :
      Stands v ast ⟨waiting v outer ++ (node.children.take next).map (ofAst v), (node, next) :: outer⟩
  | done : Stands v ast ⟨[ofAst v ast], []⟩

variable {v : Vocabulary} {ast : Ast} {s s' : Build}

/-! ### The two steps -/

theorem step_enter {finished : List (Ir String)} {node child : Ast} {next : Nat}
    {outer : List (Ast × Nat)} (hchild : node.children[next]? = some child) :
    step v ⟨finished, (node, next) :: outer⟩ =
      some ⟨finished, (child, 0) :: (node, next + 1) :: outer⟩ := by
  simp only [step, hchild]

theorem step_leave {finished : List (Ir String)} {node : Ast} {next : Nat} {outer : List (Ast × Nat)}
    (hnone : node.children[next]? = none) :
    step v ⟨finished, (node, next) :: outer⟩ = some ⟨finish v node finished, outer⟩ := by
  simp only [step, hnone]

/-! ### What stands in the list -/

theorem stands_start (v : Vocabulary) (ast : Ast) : Stands v ast (start ast) :=
  Stands.entered .root (Nat.zero_le _)

theorem map_take_succ (v : Vocabulary) {node inner : Ast} {i : Nat}
    (hchild : node.children[i]? = some inner) :
    (node.children.take (i + 1)).map (ofAst v) =
      (node.children.take i).map (ofAst v) ++ [ofAst v inner] := by
  rw [List.take_add_one, hchild, List.map_append]
  rfl

/-- The children of a node that has no further child have all been entered. -/
theorem take_of_none {node : Ast} {next : Nat} (hnext : next ≤ node.children.length)
    (hnone : node.children[next]? = none) : node.children.take next = node.children := by
  rw [Nat.le_antisymm hnext (List.getElem?_eq_none_iff.1 hnone), List.take_length]

/-- A node that is left cuts off its own children, and its tree takes their place. -/
theorem finish_waiting (v : Vocabulary) (node : Ast) (outer : List (Ast × Nat)) :
    finish v node (waiting v outer ++ node.children.map (ofAst v)) =
      waiting v outer ++ [ofAst v node] := by
  rw [finish, List.length_append, List.length_map, Nat.add_sub_cancel, List.take_left,
    List.drop_left, ← ofAst_eq]

theorem stands_step (h : Stands v ast s) (hs : s.step v = some s') : Stands v ast s' := by
  cases h with
  | done => simp [step] at hs
  | @entered node next outer hway hnext =>
    cases hchild : node.children[next]? with
    | some child =>
      -- the child begins with no finished children of its own
      have hentered := Stands.entered (v := v) (IsWay.child hchild hway) (Nat.zero_le _)
      rw [waiting, Nat.add_sub_cancel, List.take_zero, List.map_nil, List.append_nil] at hentered
      rw [step_enter hchild] at hs
      cases hs
      exact hentered
    | none =>
      rw [step_leave hchild, take_of_none hnext hchild, finish_waiting] at hs
      cases hs
      cases hway with
      | root => exact Stands.done
      | @child _ parent i outer hchild hway =>
        have hle : i + 1 ≤ parent.children.length := (List.getElem?_eq_some_iff.1 hchild).1
        have hentered := Stands.entered (v := v) hway hle
        rw [map_take_succ v hchild, ← List.append_assoc] at hentered
        exact hentered

theorem stands_after {n : Nat} (h : after v ast n = some s) : Stands v ast s := by
  induction n generalizing s with
  | zero =>
    cases h
    exact stands_start v ast
  | succ n ih =>
    rw [after, Option.bind_eq_some_iff] at h
    obtain ⟨before, hbefore, hs⟩ := h
    exact stands_step (ih hbefore) hs

/-! ### The number of steps -/

/-- Every step does one piece of the work that is left. -/
theorem work_of_step (h : s.step v = some s') : s'.work + 1 = s.work := by
  obtain ⟨finished, entered⟩ := s
  cases entered with
  | nil => simp [step] at h
  | cons top rest =>
    obtain ⟨node, next⟩ := top
    cases hchild : node.children[next]? with
    | some child =>
      rw [step_enter hchild] at h
      obtain ⟨hlt, rfl⟩ := List.getElem?_eq_some_iff.1 hchild
      cases h
      simp only [work, enteredWork, List.drop_zero]
      rw [List.drop_eq_getElem_cons hlt, Tree.forestSize_cons, Tree.size_eq node.children[next]]
      omega
    | none =>
      rw [step_leave hchild] at h
      cases h
      simp only [work, enteredWork]
      rw [List.drop_eq_nil_of_le (List.getElem?_eq_none_iff.1 hchild), Tree.forestSize_nil]
      omega

theorem work_start (ast : Ast) : (start ast).work + 1 = 2 * ast.nodeCount := by
  rw [Ast.nodeCount, Tree.length_walk, Tree.size_eq, start, work, enteredWork, enteredWork,
    List.drop_zero]
  omega

theorem entered_eq_nil_of_step (h : s.step v = none) : s.entered = [] := by
  obtain ⟨finished, entered⟩ := s
  cases entered with
  | nil => rfl
  | cons top rest =>
    obtain ⟨node, next⟩ := top
    simp only [step] at h
    split at h <;> simp at h

theorem entered_eq_nil_of_work (h : s.work = 0) : s.entered = [] := by
  obtain ⟨finished, entered⟩ := s
  cases entered with
  | nil => rfl
  | cons top rest =>
    rw [work, enteredWork] at h
    omega

/-- The construction goes on as long as there is work left. -/
theorem exists_after (v : Vocabulary) (ast : Ast) {n : Nat} (hn : n ≤ (start ast).work) :
    ∃ s, after v ast n = some s ∧ s.work + n = (start ast).work := by
  induction n with
  | zero => exact ⟨start ast, rfl, rfl⟩
  | succ n ih =>
    obtain ⟨s, hs, hwork⟩ := ih (by omega)
    cases hstep : s.step v with
    | none =>
      have hzero : s.work = 0 := by rw [work, entered_eq_nil_of_step hstep, enteredWork]
      omega
    | some next =>
      have hnext := work_of_step hstep
      exact ⟨next, by rw [after, hs]; exact hstep, by omega⟩

theorem after_last (v : Vocabulary) (ast : Ast) :
    after v ast (2 * ast.nodeCount - 1) = some ⟨[ofAst v ast], []⟩ := by
  have hstart := work_start ast
  have hlast : 2 * ast.nodeCount - 1 ≤ (start ast).work := by omega
  obtain ⟨s, hs, hwork⟩ := exists_after v ast hlast
  have hentered := entered_eq_nil_of_work (s := s) (by omega)
  rw [hs]
  cases stands_after hs with
  | entered => exact absurd hentered (List.cons_ne_nil _ _)
  | done => rfl

/-- The run goes through the state after each number of steps. -/
theorem run_of_after {n : Nat} (h : after v ast n = some s) : (start ast).run v = s.run v := by
  induction n generalizing s with
  | zero =>
    cases h
    rfl
  | succ n ih =>
    rw [after, Option.bind_eq_some_iff] at h
    obtain ⟨before, hbefore, hs⟩ := h
    rw [ih hbefore, run]
    split
    next hnone => rw [hs] at hnone; exact absurd hnone (by simp)
    next s' hsome =>
      rw [hs] at hsome
      cases hsome
      rfl

theorem run_start (v : Vocabulary) (ast : Ast) : (start ast).run v = ⟨[ofAst v ast], []⟩ := by
  rw [run_of_after (after_last v ast), run]
  rfl

end Build

/-! ### What is built -/

theorem build_eq_ofAst (v : Vocabulary) (ast : Ast) : build v ast = ofAst v ast := by
  rw [build, Build.run_start, List.headD_cons]

/-- What a node says of itself in the syntax tree that it was built from. -/
def Label.source (label : Label String) : Ast.Label :=
  ⟨label.kind, label.name⟩

/-- What the tree `t` is when it was built from a syntax tree. -/
structure IsBuilt (v : Vocabulary) (ast : Ast) (t : Ir String) : Prop where
  /-- It is built by recursion: the children of each node first, in order, then the node. -/
  eq_ofAst : t = ofAst v ast
  /-- Its nodes are those of the syntax tree, in their places, with their kinds and names. -/
  map_source : t.map Label.source = ast
  /-- Each node depends on the names of its own children, and on no others. -/
  mem_dependencies_iff : t.Everywhere fun s => ∀ name,
    name ∈ s.label.dependencies ↔ ∃ c ∈ s.children, c.label.name = name
  /-- The nodes of the branch kinds are marked, and no others. -/
  controlFlow_iff : t.Everywhere fun s =>
    s.label.controlFlow = some .branch ↔ s.label.kind ∈ v.branchKinds
  /-- It has as many nodes as the syntax tree. -/
  nodeCount_eq : t.nodeCount = ast.nodeCount

theorem map_source_ofAst (v : Vocabulary) (ast : Ast) : (ofAst v ast).map Label.source = ast := by
  induction ast using Tree.induction with
  | node label ts ih =>
    have hchildren : (ts.map (ofAst v)).map (Tree.map Label.source) = ts.map id := by
      rw [List.map_map]
      exact List.map_congr_left ih
    rw [ofAst_node, ofNode, Tree.map_node, hchildren, List.map_id]
    rfl

theorem mem_dependencies_ofNode (v : Vocabulary) (label : Ast.Label) (children : List (Ir String))
    (name : String) : name ∈ (ofNode v label children).label.dependencies ↔
      ∃ c ∈ children, c.label.name = name := by
  show name ∈ NameSet.ofList (children.map Ir.name) ↔ _
  rw [NameSet.mem_ofList, List.mem_map]
  rfl

theorem controlFlow_ofNode (v : Vocabulary) (label : Ast.Label) (children : List (Ir String)) :
    (ofNode v label children).label.controlFlow = some .branch ↔ v.isBranch label.kind = true := by
  show (if v.isBranch label.kind then some ControlFlow.branch else none) = some .branch ↔ _
  split
  next h => simp [h]
  next h => simp [h]

/-- What holds of every node on its finished children holds everywhere in what is built. -/
theorem everywhere_ofAst {P : Ir String → Prop} (v : Vocabulary)
    (h : ∀ label children, P (ofNode v label children)) (ast : Ast) : (ofAst v ast).Everywhere P := by
  induction ast using Tree.induction with
  | node label ts ih =>
    rw [ofAst_node, Tree.everywhere_iff]
    refine ⟨h label _, ?_⟩
    show ∀ c ∈ ts.map (ofAst v), c.Everywhere P
    rw [List.forall_mem_map]
    exact ih

theorem isBuilt_ofAst (v : Vocabulary) (ast : Ast) : IsBuilt v ast (ofAst v ast) := by
  refine ⟨rfl, map_source_ofAst v ast, ?_, ?_, ?_⟩
  · exact everywhere_ofAst v (fun label children => mem_dependencies_ofNode v label children) ast
  · refine everywhere_ofAst v (fun label children => ?_) ast
    exact (controlFlow_ofNode v label children).trans NameSet.contains_iff_mem
  · have hpreorder := congrArg List.length (Tree.preorder_map Label.source (ofAst v ast))
    rw [map_source_ofAst, List.length_map] at hpreorder
    rw [nodeCount, Ast.nodeCount, Tree.walk_eq_preorder, Tree.walk_eq_preorder, hpreorder]

/-- The construction ends after each node was entered and left once, and then one tree is finished.
Whenever a node is left, the last finished trees, as many as it has children, are those of its children,
and what stands before them waits for the nodes around it and is left alone. -/
theorem build_isBuilt (v : Vocabulary) (ast : Ast) :
    (Build.after v ast (2 * ast.nodeCount - 1) = some ⟨[build v ast], []⟩ ∧
      (Build.start ast).run v = ⟨[build v ast], []⟩) ∧
    (∀ n s node next outer, Build.after v ast n = some s → s.entered = (node, next) :: outer →
      node.children[next]? = none →
      s.finished = Build.waiting v outer ++ node.children.map (build v) ∧
        Build.after v ast (n + 1) = some ⟨Build.waiting v outer ++ [build v node], outer⟩) ∧
    IsBuilt v ast (build v ast) := by
  have hbuild : build v = ofAst v := funext (build_eq_ofAst v)
  rw [hbuild]
  refine ⟨⟨Build.after_last v ast, Build.run_start v ast⟩, ?_, isBuilt_ofAst v ast⟩
  intro n s node next outer hafter hentered hnone
  cases Build.stands_after hafter with
  | done => exact absurd hentered.symm (List.cons_ne_nil _ _)
  | entered hway hnext =>
    cases hentered
    rw [Build.take_of_none hnext hnone] at hafter ⊢
    refine ⟨rfl, ?_⟩
    rw [Build.after, hafter, Option.bind_some, Build.step_leave hnone, Build.finish_waiting]

end DeclSplit.Ir
