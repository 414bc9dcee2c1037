import DeclSplit.Ir.Segment
import DeclSplit.Proofs.Ir.Optimize
import DeclSplit.Proofs.Tree.Enclosing
import DeclSplit.Proofs.Tree.Growth
import DeclSplit.Proofs.Tree.Slices

/-!
# The segments of a tree

The segments are said here through the nodes of the tree alone, for any test of kinds, so the statements
hold of every vocabulary and of kinds that are no texts.

* `Ir.segmentsWhere_eq_filter` — the segments are subtrees, although each of them is a copy;
* `Ir.segmentsWhere_eq_slice` — the segments of a segment are a slice of the segments;
* `Ir.sum_countP_segmentsWhere` — a node is in as many segments as there are declarations around it;
* `Ir.segmentsWhere_optimizeWhere` — the segments of what is left without the grouping nodes are those that
  no grouping node hides, each without its own grouping nodes.
-/

namespace DeclSplit.Ir

variable {κ : Type} [Ord κ]

/-- The segments are the subtrees whose kind meets the test, in pre-order. -/
theorem segmentsWhere_eq_filter (isDeclaration : κ → Bool) (t : Ir κ) :
    t.segmentsWhere isDeclaration = t.preorder.filter fun s => isDeclaration s.label.kind := by
  have hclone : (Tree.clone : Ir κ → Ir κ) = id := funext Tree.clone_eq_self
  rw [segmentsWhere, hclone, List.map_id, Tree.walk_eq_preorder]

/-! ### Segments of segments -/

theorem segmentsWhere_of_getElem? {isDeclaration : κ → Bool} {t s : Ir κ} {i : Nat}
    (h : (t.segmentsWhere isDeclaration)[i]? = some s) :
    s.segmentsWhere isDeclaration =
      ((t.segmentsWhere isDeclaration).drop i).take
        (s.preorder.countP fun s => isDeclaration s.label.kind) := by
  rw [segmentsWhere_eq_filter] at h
  rw [segmentsWhere_eq_filter, segmentsWhere_eq_filter]
  exact Tree.filter_preorder_eq_slice h

/-- The segments are the subtrees whose kind meets the test, in pre-order, each with all that it had.  The
segments of a segment begin with itself and are the next ones among all segments, as many as there are
declarations in the segment. -/
theorem segmentsWhere_eq_slice (isDeclaration : κ → Bool) (t : Ir κ) :
    t.segmentsWhere isDeclaration = t.preorder.filter (fun s => isDeclaration s.label.kind) ∧
    ∀ i : Fin (t.segmentsWhere isDeclaration).length,
      ((t.segmentsWhere isDeclaration).get i).segmentsWhere isDeclaration =
        ((t.segmentsWhere isDeclaration).drop i).take
          (((t.segmentsWhere isDeclaration).get i).preorder.countP fun s =>
            isDeclaration s.label.kind) := by
  constructor
  · exact segmentsWhere_eq_filter isDeclaration t
  · intro i
    exact segmentsWhere_of_getElem? (List.getElem?_eq_getElem i.isLt)

/-! ### Nodes of segments -/

/-- Over all segments there are as many nodes that meet a test as in the tree, when each of them is counted
once for each declaration on the way from the root to it, both ends included. -/
theorem sum_countP_segmentsWhere (isDeclaration : κ → Bool) (q : Label κ → Bool) (t : Ir κ) :
    ((t.segmentsWhere isDeclaration).map fun s => s.walk.countP fun r => q r.label).sum =
      ((t.positionsOf q).map fun p =>
        (t.pathTo p).countP fun s => isDeclaration s.label.kind).sum := by
  rw [segmentsWhere_eq_filter]
  simp only [Tree.walk_eq_preorder]
  exact Tree.sum_countP_preorder q (fun label => isDeclaration label.kind) t

/-! ### Segments without grouping nodes -/

/-- Of two lists that go together, the members of the second that stand with chosen ones of the first. -/
theorem map_snd_filter_zip {β γ : Type} {f : β → Option γ} (keep : β → Bool) {bs : List β}
    {cs : List γ} (h : bs.map f = cs.map some) :
    ((bs.zip cs).filter fun x => keep x.1).map Prod.snd = (bs.filter keep).filterMap f := by
  induction bs generalizing cs with
  | nil => rfl
  | cons b bs ih =>
    cases cs with
    | nil => exact absurd h (List.cons_ne_nil _ _)
    | cons c cs =>
      rw [List.map_cons, List.map_cons] at h
      injection h with hb hrest
      rw [List.zip_cons_cons, List.filter_cons, List.filter_cons]
      cases keep b with
      | true => rw [if_pos rfl, if_pos rfl, List.map_cons, ih hrest, List.filterMap_cons_some hb]
      | false => exact ih hrest

/-- What is chosen among the values of a list are the values of what is chosen in the list. -/
theorem filter_filterMap_eq {β γ : Type} (f : β → Option γ) (q : γ → Bool) (bs : List β) :
    (bs.filterMap f).filter q = (bs.filter fun b => (f b).any q).filterMap f := by
  rw [List.filter_filterMap, List.filterMap_filter]
  refine List.filterMap_congr fun b _ => ?_
  cases hb : f b with
  | none => simp
  | some c => cases hc : q c <;> simp [hc]

/-- Each segment has the position of its root.  The segments of what is left without the grouping nodes are
those with no grouping node on the way from the root of the tree to theirs, the root of the tree left out
and theirs included, in the same order and each without its own grouping nodes. -/
theorem segmentsWhere_optimizeWhere (isGrouping isDeclaration : κ → Bool) (t : Ir κ) :
    (t.positionsOf fun label => isDeclaration label.kind).map t.at? =
      (t.segmentsWhere isDeclaration).map some ∧
    (t.optimizeWhere isGrouping).segmentsWhere isDeclaration =
      ((((t.positionsOf fun label => isDeclaration label.kind).zip
        (t.segmentsWhere isDeclaration)).filter fun x =>
          (t.wayTo x.1).all fun s => !isGrouping s.label.kind).map Prod.snd).map
        (optimizeWhere isGrouping) := by
  have hpositions : (t.positionsOf fun label => isDeclaration label.kind).map t.at? =
      (t.segmentsWhere isDeclaration).map some := by
    rw [segmentsWhere_eq_filter]
    exact Tree.map_at?_positionsOf (fun label : Label κ => isDeclaration label.kind) t
  have hchosen := map_snd_filter_zip
    (fun p => (t.wayTo p).all fun s => !isGrouping s.label.kind) hpositions
  have hopen : (t.openSubtrees fun label => isGrouping label.kind).filter
        (fun s => isDeclaration s.label.kind) =
      ((t.positionsOf fun label => isDeclaration label.kind).filter fun p =>
        (t.wayTo p).all fun s => !isGrouping s.label.kind).filterMap t.at? := by
    rw [Tree.openSubtrees, filter_filterMap_eq, List.filter_comm]
    rfl
  refine ⟨hpositions, ?_⟩
  rw [hchosen, ← hopen, segmentsWhere_eq_filter, optimizeWhere_eq, Tree.preorder_prune,
    List.filter_map]
  simp only [Function.comp_def, Tree.label_prune]

end DeclSplit.Ir
