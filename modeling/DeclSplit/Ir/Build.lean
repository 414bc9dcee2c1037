import DeclSplit.Ast
import DeclSplit.Ir
import DeclSplit.Vocabulary

/-!
# From syntax to the intermediate representation

Every node of a syntax tree becomes one node, with the names of its direct children as its
dependencies and a mark if its kind is a branch kind.

* `Ir.ofNode` — one node from its label and its finished children;
* `Ir.ofAst` — the whole tree by recursion;
* `Ir.Build.run`, `Ir.build` — the same from two lists: the nodes that have been entered and the
  trees that are finished.
-/

namespace DeclSplit.Ir

/-- One node from its label and its finished children. -/
def ofNode (v : Vocabulary) (label : Ast.Label) (children : List (Ir String)) : Ir String :=
  .node
    { kind := label.kind
      name := label.name
      controlFlow := if v.isBranch label.kind then some .branch else none
      dependencies := .ofList (children.map name) }
    children

/-- The tree of a syntax tree, node for node. -/
def ofAst (v : Vocabulary) (ast : Ast) : Ir String :=
  ast.fold (ofNode v)

/-! ### With an explicit stack -/

/-- The state of a construction: the finished trees in the order in which they were finished, and
the nodes that have been entered, innermost first, each with the number of its children that have
been entered. -/
structure Build where
  finished : List (Ir String)
  entered : List (Ast × Nat)

namespace Build

/-- The state in which the root has been entered. -/
def start (ast : Ast) : Build :=
  ⟨[], [(ast, 0)]⟩

/-- Leaves a node: as many finished trees as it has children, the last ones, become its
children. -/
def finish (v : Vocabulary) (node : Ast) (finished : List (Ir String)) : List (Ir String) :=
  let first := finished.length - node.children.length
  finished.take first ++ [ofNode v node.label (finished.drop first)]

/-- One step: enter the next child of the innermost node, or leave the node if there is none. -/
def step (v : Vocabulary) (s : Build) : Option Build :=
  match s.entered with
  | [] => none
  | (node, next) :: rest =>
    match node.children[next]? with
    | some child => some ⟨s.finished, (child, 0) :: (node, next + 1) :: rest⟩
    | none => some ⟨finish v node s.finished, rest⟩

/-- What is left to do for the nodes that have been entered: each of them is left, and each node
below them that is still to be entered is entered and left. -/
def enteredWork : List (Ast × Nat) → Nat
  | [] => 0
  | (node, next) :: rest => 2 * Tree.forestSize (node.children.drop next) + 1 + enteredWork rest

/-- What is left to do. -/
def work (s : Build) : Nat :=
  enteredWork s.entered

theorem work_lt_of_step {v : Vocabulary} {s s' : Build} (h : s.step v = some s') :
    s'.work < s.work := by
  unfold step at h
  split at h
  next => simp at h
  next node next rest hs =>
    split at h
    next child hc =>
      obtain ⟨hlt, rfl⟩ := List.getElem?_eq_some_iff.1 hc
      cases h
      simp only [work, hs, enteredWork, List.drop_zero]
      rw [List.drop_eq_getElem_cons hlt, Tree.forestSize_cons, Tree.size_eq node.children[next]]
      omega
    next =>
      cases h
      simp only [work, hs, enteredWork]
      omega

/-- Runs until no node is entered any more. -/
def run (v : Vocabulary) (s : Build) : Build :=
  match _h : s.step v with
  | none => s
  | some s' => run v s'
termination_by s.work
decreasing_by exact work_lt_of_step _h

end Build

/-- The tree of a syntax tree, the first tree left when every node has been left. -/
def build (v : Vocabulary) (ast : Ast) : Ir String :=
  ((Build.start ast).run v).finished.headD (ofNode v ast.label [])

end DeclSplit.Ir
