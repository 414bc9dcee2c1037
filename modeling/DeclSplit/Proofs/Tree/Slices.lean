import DeclSplit.Proofs.Tree.Subtrees

/-!
# Slices of the pre-order

All that is below a node comes right after it in the pre-order, with nothing in between.  So the pre-order
of a subtree is a slice of the pre-order of the tree, and what is selected in the subtree is a slice of
what is selected in the tree.

* `Tree.descendants_isPrefix` — what comes after a node begins with what is below it;
* `Tree.filter_preorder_eq_slice` — the slice that is selected in a subtree.
-/

namespace DeclSplit.Tree

variable {α : Type}

/-- What is known of the pre-order of a tree: what comes after a node begins with what is below it. -/
def IsContiguous (t : Tree α) : Prop :=
  ∀ before s after, t.preorder = before ++ s :: after → s.descendants <+: after

/-- Trees that are contiguous stay so when they stand one after the other. -/
theorem descendants_isPrefix_of_forest {ts : List (Tree α)} (hts : ∀ t ∈ ts, t.IsContiguous)
    (before : List (Tree α)) (s : Tree α) (after : List (Tree α))
    (h : ts.flatMap preorder = before ++ s :: after) : s.descendants <+: after := by
  induction ts generalizing before with
  | nil =>
    rw [List.flatMap_nil] at h
    exact absurd h (by simp)
  | cons t ts ih =>
    have hlater := ih fun u hu => hts u (List.mem_cons_of_mem t hu)
    rw [List.flatMap_cons, List.append_eq_append_iff] at h
    rcases h with ⟨rest, _, hrest⟩ | ⟨rest, hfirst, hrest⟩
    · exact hlater rest hrest
    · cases rest with
      | nil => exact hlater [] hrest.symm
      | cons s' rest =>
        -- the node is one of the first tree, so what is below it ends there
        rw [List.cons_append] at hrest
        injection hrest with hs hafter
        subst hs
        have hprefix := hts t List.mem_cons_self before s rest hfirst
        rw [hafter]
        exact hprefix.trans (List.prefix_append rest _)

theorem isContiguous (t : Tree α) : t.IsContiguous := by
  induction t with
  | node a ts ih =>
    intro before s after h
    rw [preorder_node] at h
    cases before with
    | nil =>
      injection h with hs hafter
      have hall : s.descendants = after := by rw [← hs, ← hafter, descendants, children_node]
      exact hall ▸ List.prefix_rfl
    | cons first before =>
      injection h with _ hbelow
      exact descendants_isPrefix_of_forest ih before s after hbelow

/-- What comes after a node in the pre-order begins with what is below it. -/
theorem descendants_isPrefix {t s : Tree α} {before after : List (Tree α)}
    (h : t.preorder = before ++ s :: after) : s.descendants <+: after :=
  isContiguous t before s after h

/-- A member that was selected stands somewhere in the list, behind the members that were selected
before it. -/
theorem exists_append_cons_of_filter {β : Type} {q : β → Bool} {bs : List β} {b : β} {i : Nat}
    (h : (bs.filter q)[i]? = some b) :
    ∃ before after, bs = before ++ b :: after ∧ (before.filter q).length = i := by
  obtain ⟨hi, hb⟩ := List.getElem?_eq_some_iff.1 h
  have hsplit : bs.filter q = (bs.filter q).take i ++ b :: (bs.filter q).drop (i + 1) := by
    rw [← hb, ← List.drop_eq_getElem_cons hi, List.take_append_drop]
  obtain ⟨first, rest, rfl, hfirst, hrest⟩ := List.filter_eq_append_iff.1 hsplit
  obtain ⟨skipped, after, rfl, hskipped, _, _⟩ := List.filter_eq_cons_iff.1 hrest
  refine ⟨first ++ skipped, after, by rw [List.append_assoc], ?_⟩
  have hnone : skipped.filter q = [] := List.filter_eq_nil_iff.2 hskipped
  rw [List.filter_append, hnone, List.append_nil, hfirst, List.length_take,
    Nat.min_eq_left (Nat.le_of_lt hi)]

/-- What is selected in a subtree is a slice of what is selected in the tree: it begins where the subtree
itself is selected, and is as long as there are nodes to select in the subtree. -/
theorem filter_preorder_eq_slice {q : Tree α → Bool} {t s : Tree α} {i : Nat}
    (h : (t.preorder.filter q)[i]? = some s) :
    s.preorder.filter q = ((t.preorder.filter q).drop i).take (s.preorder.countP q) := by
  obtain ⟨before, after, hsplit, hi⟩ := exists_append_cons_of_filter h
  obtain ⟨rest, rfl⟩ := descendants_isPrefix hsplit
  have htail : s :: (s.descendants ++ rest) = s.preorder ++ rest := by
    rw [preorder_eq_cons_descendants, List.cons_append]
  rw [hsplit, htail, List.filter_append, List.filter_append, List.drop_left' hi,
    List.countP_eq_length_filter, List.take_left]

end DeclSplit.Tree
