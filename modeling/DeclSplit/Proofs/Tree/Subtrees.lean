import DeclSplit.Proofs.Tree.Positions

/-!
# Subtrees of subtrees

* `Tree.descendants` — the subtrees below the root;
* `Tree.mem_preorder_trans` — a subtree of a subtree is a subtree;
* `Tree.mem_preorder_prune`, `Tree.not_refused_of_mem_descendants_prune` — the subtrees of a pruned tree, none
  of which below the root is refused;
* `Tree.Everywhere` — a condition that holds of all subtrees of a tree;
* `Tree.at?_modifyAt` — the subtree at a position where the tree was changed.
-/

namespace DeclSplit.Tree

variable {α : Type}

/-- The subtrees below the root, in pre-order. -/
def descendants (t : Tree α) : List (Tree α) :=
  t.children.flatMap preorder

theorem preorder_eq_cons_descendants (t : Tree α) : t.preorder = t :: t.descendants := by
  cases t with
  | node a ts => rw [preorder_node, descendants, children_node]

theorem mem_preorder_iff {s t : Tree α} : s ∈ t.preorder ↔ s = t ∨ s ∈ t.descendants := by
  rw [preorder_eq_cons_descendants, List.mem_cons]

theorem mem_descendants_iff {s t : Tree α} : s ∈ t.descendants ↔ ∃ c ∈ t.children, s ∈ c.preorder := by
  rw [descendants, List.mem_flatMap]

theorem self_mem_preorder (t : Tree α) : t ∈ t.preorder :=
  mem_preorder_iff.2 (.inl rfl)

theorem mem_preorder_node {s : Tree α} {a : α} {ts : List (Tree α)} :
    s ∈ (node a ts).preorder ↔ s = node a ts ∨ ∃ t ∈ ts, s ∈ t.preorder := by
  rw [mem_preorder_iff, mem_descendants_iff, children_node]

/-- A subtree of a subtree is a subtree. -/
theorem mem_preorder_trans {r s t : Tree α} (hr : r ∈ s.preorder) (hs : s ∈ t.preorder) :
    r ∈ t.preorder := by
  induction t with
  | node a ts ih =>
    rcases mem_preorder_node.1 hs with rfl | ⟨t, ht, hst⟩
    · exact hr
    · exact mem_preorder_node.2 (.inr ⟨t, ht, ih t ht hst⟩)

/-- A subtree below the root of a subtree is one below the root. -/
theorem mem_descendants_trans {r s t : Tree α} (hr : r ∈ s.descendants) (hs : s ∈ t.preorder) :
    r ∈ t.descendants := by
  rcases mem_preorder_iff.1 hs with rfl | hs
  · exact hr
  · obtain ⟨c, hc, hsc⟩ := mem_descendants_iff.1 hs
    exact mem_descendants_iff.2 ⟨c, hc, mem_preorder_trans (mem_preorder_iff.2 (.inr hr)) hsc⟩

theorem mem_preorder_of_at? {s t : Tree α} {p : List Nat} (h : t.at? p = some s) :
    s ∈ t.preorder := by
  induction p generalizing t with
  | nil =>
    obtain rfl : t = s := Option.some.inj h
    exact self_mem_preorder t
  | cons i p ih =>
    rw [at?, Option.bind_eq_some_iff] at h
    obtain ⟨c, hc, hs⟩ := h
    exact mem_preorder_iff.2 (.inr (mem_descendants_iff.2 ⟨c, List.mem_of_getElem? hc, ih hs⟩))

/-! ### Pruned trees -/

/-- The subtrees of a pruned tree are subtrees of the tree, each pruned. -/
theorem mem_preorder_prune {refused : α → Bool} {s t : Tree α} (h : s ∈ (t.prune refused).preorder) :
    ∃ u ∈ t.preorder, u.prune refused = s := by
  induction t with
  | node a ts ih =>
    rw [prune_node, mem_preorder_node] at h
    rcases h with rfl | ⟨c, hc, hs⟩
    · exact ⟨node a ts, self_mem_preorder _, prune_node refused a ts⟩
    · obtain ⟨t, ht, rfl⟩ := List.mem_map.1 hc
      have hts := List.mem_of_mem_filter ht
      obtain ⟨u, hu, rfl⟩ := ih t hts hs
      exact ⟨u, mem_preorder_node.2 (.inr ⟨t, hts, hu⟩), rfl⟩

theorem mem_children_prune {refused : α → Bool} {c t : Tree α} (h : c ∈ (t.prune refused).children) :
    refused c.label = false ∧ ∃ d ∈ t.children, d.prune refused = c := by
  cases t with
  | node a ts =>
    rw [prune_node, children_node, List.mem_map] at h
    obtain ⟨d, hd, rfl⟩ := h
    rw [List.mem_filter] at hd
    rw [label_prune]
    exact ⟨by simpa using hd.2, d, hd.1, rfl⟩

/-- No node below the root of a pruned tree is refused. -/
theorem not_refused_of_mem_descendants_prune {refused : α → Bool} {s t : Tree α}
    (h : s ∈ (t.prune refused).descendants) : refused s.label = false := by
  induction t with
  | node a ts ih =>
    obtain ⟨c, hc, hs⟩ := mem_descendants_iff.1 h
    obtain ⟨hkept, d, hd, rfl⟩ := mem_children_prune hc
    rcases mem_preorder_iff.1 hs with rfl | hs
    · exact hkept
    · exact ih d hd hs

/-- A node below the root of a pruned tree has the label of one below the root of the tree. -/
theorem exists_label_of_mem_descendants_prune {refused : α → Bool} {s t : Tree α}
    (h : s ∈ (t.prune refused).descendants) : ∃ u ∈ t.descendants, u.label = s.label := by
  obtain ⟨c, hc, hs⟩ := mem_descendants_iff.1 h
  obtain ⟨_, d, hd, rfl⟩ := mem_children_prune hc
  obtain ⟨u, hu, rfl⟩ := mem_preorder_prune hs
  exact ⟨u, mem_descendants_iff.2 ⟨d, hd, hu⟩, (label_prune refused u).symm⟩

/-! ### What holds everywhere in a tree -/

/-- A condition holds of every subtree. -/
def Everywhere (P : Tree α → Prop) (t : Tree α) : Prop :=
  ∀ s ∈ t.preorder, P s

variable {P : Tree α → Prop}

theorem everywhere_iff {t : Tree α} :
    t.Everywhere P ↔ P t ∧ ∀ c ∈ t.children, c.Everywhere P := by
  constructor
  · intro h
    refine ⟨h t (self_mem_preorder t), fun c hc s hs => h s ?_⟩
    exact mem_preorder_iff.2 (.inr (mem_descendants_iff.2 ⟨c, hc, hs⟩))
  · rintro ⟨ht, hchildren⟩ s hs
    rcases mem_preorder_iff.1 hs with rfl | hs
    · exact ht
    · obtain ⟨c, hc, hs⟩ := mem_descendants_iff.1 hs
      exact hchildren c hc s hs

theorem Everywhere.of_mem {s t : Tree α} (h : t.Everywhere P) (hs : s ∈ t.preorder) :
    s.Everywhere P :=
  fun r hr => h r (mem_preorder_trans hr hs)

/-! ### A change at a position -/

/-- The subtree at the position of a change is the one that was there, changed. -/
theorem at?_modifyAt (g : Tree α → Tree α) (t : Tree α) (p : List Nat) :
    (t.modifyAt g p).at? p = (t.at? p).map g := by
  induction p generalizing t with
  | nil => rfl
  | cons i p ih =>
    cases t with
    | node a ts =>
      rw [modifyAt, at?, at?, children_node, children_node, List.getElem?_modify]
      cases ts[i]? with
      | none => rfl
      | some c => simpa using ih c

/-- A member of a list that was changed in one place is an old member or one that was changed. -/
theorem mem_modify {β : Type} {g : β → β} {x : β} {xs : List β} {i : Nat} (h : x ∈ xs.modify i g) :
    ∃ y ∈ xs, x = y ∨ x = g y := by
  obtain ⟨j, hj⟩ := List.mem_iff_getElem?.1 h
  rw [List.getElem?_modify] at hj
  obtain ⟨y, hy, hx⟩ := Option.map_eq_some_iff.1 hj
  refine ⟨y, List.mem_of_getElem? hy, ?_⟩
  split at hx
  · exact .inr hx.symm
  · exact .inl hx.symm

end DeclSplit.Tree
