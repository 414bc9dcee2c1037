import DeclSplit.Proofs.Tree.Positions

/-!
# Pruning in place

The positions of all nodes are taken down first, and the refused children are dropped at each of them,
the last one first.  A node may be cut off only after it was visited, so no position leads astray.

* `Tree.pruneFrom` — the tree when only some nodes are still to be visited;
* `Tree.at?_pruneFrom` — the node whose turn it is stands where it stood at first, and all below it is
  pruned;
* `Tree.prune_eq_fold` — pruning every child first, then dropping the refused ones;
* `Tree.outermost` — the refused subtrees below the root that are in no other one;
* `Tree.size_prune_add` — they have just the nodes that pruning leaves out;
* `Tree.prune_prune` — two prunings are one that refuses what either of them does;
* `Tree.prune_modifyAt` — a change that pruning undoes may be made anywhere before.
-/

namespace DeclSplit.Tree

variable {α : Type} (refused : α → Bool)

/-! ### While some nodes are still to be visited -/

/-- The tree when all nodes but the first `n` of the pre-order have been visited. -/
def pruneFrom (t : Tree α) (n : Nat) : Tree α :=
  (t.positions.drop n).reverse.foldl (fun t p => t.modifyAt (dropChildren refused) p) t

/-- What a node is when its turn comes: its children are still there, each of them pruned. -/
def pruneBelow (s : Tree α) : Tree α :=
  .node s.label (s.children.map (prune refused))

/-- What is known of the visits to a tree: each position leads to the node that it led to at first, when
those behind it have been visited. -/
def StaysInPlace (t : Tree α) : Prop :=
  ∀ before p after, t.positions = before ++ p :: after →
    (after.reverse.foldl (fun t p => t.modifyAt (dropChildren refused) p) t).at? p =
      (t.at? p).map (pruneBelow refused)

/-- The visits to the nodes below the children from the given index on: those of a later child are over
before those of an earlier one begin. -/
theorem at?_foldl_forestPositions (a : α) {ts : List (Tree α)}
    (hts : ∀ t ∈ ts, t.StaysInPlace refused) (front : List (Tree α)) (before : List (List Nat))
    (p : List Nat) (after : List (List Nat))
    (h : forestPositions front.length ts = before ++ p :: after) :
    (after.reverse.foldl (fun t p => t.modifyAt (dropChildren refused) p)
        (node a (front ++ ts))).at? p =
      ((node a (front ++ ts)).at? p).map (pruneBelow refused) := by
  induction ts generalizing front before with
  | nil =>
    rw [forestPositions] at h
    exact absurd h (by simp)
  | cons t ts ih =>
    have hlater := ih (fun u hu => hts u (List.mem_cons_of_mem t hu)) (front ++ [t])
    have hdone := foldl_forestPositions (dropChildren refused) a (front ++ [t]) ts
    rw [List.length_append, List.length_singleton, List.append_assoc, List.singleton_append]
      at hlater hdone
    rw [forestPositions, List.append_eq_append_iff] at h
    rcases h with ⟨rest, _, hrest⟩ | ⟨rest, hfirst, hrest⟩
    · exact hlater rest hrest
    · cases rest with
      | nil => exact hlater [] hrest.symm
      | cons p' rest =>
        rw [List.cons_append] at hrest
        injection hrest with hp hafter
        subst hp
        obtain ⟨qs, rs, hqs, _, hrs⟩ := List.map_eq_append_iff.1 hfirst
        obtain ⟨q, us, rfl, rfl, rfl⟩ := List.map_eq_cons_iff.1 hrs
        have ht := hts t List.mem_cons_self qs q us hqs
        rw [hafter, List.reverse_append, List.foldl_append, hdone, List.append_assoc,
          List.singleton_append, ← List.map_reverse, List.foldl_map,
          foldl_modifyAt_below (fun _ => dropChildren refused) (fun p => p), at?_below, at?_below, ht]

theorem staysInPlace (t : Tree α) : t.StaysInPlace refused := by
  induction t with
  | node a ts ih =>
    intro before p after h
    rw [positions_node] at h
    cases before with
    | nil =>
      injection h with hp hafter
      subst hp
      have hdone := foldl_forestPositions (dropChildren refused) a [] ts
      have hpruned : ts.map (fun t => t.positions.reverse.foldl
          (fun t p => t.modifyAt (dropChildren refused) p) t) = ts.map (prune refused) :=
        List.map_congr_left fun t _ => pruneInPlace_eq_prune refused t
      rw [List.length_nil, List.nil_append, List.nil_append, hpruned] at hdone
      rw [← hafter, hdone]
      rfl
    | cons first before =>
      injection h with _ hbelow
      exact at?_foldl_forestPositions refused a ih [] before p after hbelow

/-- The `n`-th node of the pre-order stands where it stood at first when its turn comes, and all below
it is pruned. -/
theorem at?_pruneFrom (t : Tree α) (n : Nat) :
    (t.positions[n]?).bind (t.pruneFrom refused (n + 1)).at? =
      (t.preorder[n]?).map (pruneBelow refused) := by
  have hnode : (t.positions[n]?).map t.at? = (t.preorder[n]?).map some := by
    rw [← List.getElem?_map, ← List.getElem?_map, map_at?_positions]
  cases hp : t.positions[n]? with
  | none =>
    rw [hp, Option.map_none, eq_comm, Option.map_eq_none_iff] at hnode
    rw [hnode]
    rfl
  | some p =>
    obtain ⟨hlt, hget⟩ := List.getElem?_eq_some_iff.1 hp
    have hsplit : t.positions = t.positions.take n ++ p :: t.positions.drop (n + 1) := by
      rw [← hget, ← List.drop_eq_getElem_cons hlt, List.take_append_drop]
    rw [hp, Option.map_some] at hnode
    obtain ⟨s, hs, hat⟩ := Option.map_eq_some_iff.1 hnode.symm
    rw [Option.bind_some, pruneFrom, staysInPlace refused t _ p _ hsplit, hs, ← hat, Option.map_some]

/-! ### The recursion -/

/-- Every child is pruned first, then the refused ones are dropped. -/
theorem prune_eq_fold (t : Tree α) :
    t.prune refused = t.fold fun a ts => .node a (ts.filter fun c => !refused c.label) := by
  induction t with
  | node a ts ih =>
    rw [fold_node, prune_node, ← List.map_congr_left ih, List.filter_map]
    simp only [Function.comp_def, label_prune]

/-! ### What is left out -/

/-- The subtrees, in pre-order, at the positions to which a way leads whose last node is refused and no
other one. -/
def outermost (t : Tree α) : List (Tree α) :=
  t.subtreesWhere fun way =>
    (way.dropLast.all fun s => !refused s.label) && way.getLast?.any fun s => refused s.label

theorem outermost_node (a : α) (ts : List (Tree α)) :
    (node a ts).outermost refused =
      ts.flatMap fun t => if refused t.label then [t] else t.outermost refused := by
  rw [outermost, subtreesWhere_node]
  show ts.flatMap _ = _
  refine List.flatMap_congr fun t _ => ?_
  cases hr : refused t.label with
  | true =>
    -- the way ends here: behind a refused node no other one is outermost
    obtain ⟨b, us⟩ := t
    rw [label_node] at hr
    rw [if_pos rfl, subtreesWhere_node]
    simp [hr, subtreesWhere_false]
  | false =>
    rw [if_neg Bool.false_ne_true, outermost]
    congr 1
    funext way
    cases way with
    | nil => simp [hr]
    | cons s way => simp [hr, List.getLast?_cons_cons]

/-- The nodes that pruning leaves out are those of the outermost refused subtrees. -/
theorem size_prune_add (t : Tree α) :
    (t.prune refused).size + forestSize (t.outermost refused) = t.size := by
  induction t with
  | node a ts ih =>
    have hforest : forestSize ((ts.filter fun t => !refused t.label).map (prune refused)) +
        forestSize (ts.flatMap fun t => if refused t.label then [t] else t.outermost refused) =
          forestSize ts := by
      induction ts with
      | nil => rfl
      | cons t ts ihts =>
        have hrest := ihts fun u hu => ih u (List.mem_cons_of_mem t hu)
        have ht := ih t List.mem_cons_self
        rw [List.flatMap_cons, forestSize_append, forestSize_cons]
        cases hr : refused t.label with
        | true =>
          rw [List.filter_cons_of_neg (by simp [hr]), if_pos rfl, forestSize_cons, forestSize_nil]
          omega
        | false =>
          rw [List.filter_cons_of_pos (by simp [hr]), if_neg Bool.false_ne_true, List.map_cons,
            forestSize_cons]
          omega
    rw [prune_node, outermost_node, size_eq, size_eq, children_node, children_node, ← hforest]
    omega

theorem length_preorder (t : Tree α) : t.preorder.length = t.size := by
  induction t with
  | node a ts ih =>
    have hforest : (ts.flatMap preorder).length = forestSize ts := by
      induction ts with
      | nil => rfl
      | cons t ts ihts =>
        rw [List.flatMap_cons, List.length_append, ih t List.mem_cons_self,
          ihts fun u hu => ih u (List.mem_cons_of_mem t hu), forestSize_cons]
    rw [preorder_node, List.length_cons, hforest, size_eq, children_node]

theorem length_walk (t : Tree α) : t.walk.length = t.size := by
  rw [walk_eq_preorder, length_preorder]

/-! ### One pruning after another -/

/-- A tree that is pruned twice loses the nodes that either of the tests refuses. -/
theorem prune_prune (refused refused' : α → Bool) (t : Tree α) :
    (t.prune refused).prune refused' = t.prune fun a => refused a || refused' a := by
  induction t with
  | node a ts ih =>
    have hkept : (fun t : Tree α => !refused' t.label && !refused t.label) =
        fun t => !(refused t.label || refused' t.label) := by
      funext t
      rw [Bool.not_or, Bool.and_comm]
    rw [prune_node, prune_node, prune_node, List.filter_map, List.map_map]
    simp only [Function.comp_def, label_prune]
    rw [List.filter_filter, hkept, List.map_congr_left fun t ht => ih t (List.mem_of_mem_filter ht)]

variable {refused}

/-- A change of one member that neither the test nor the function sees. -/
theorem map_filter_modify {β γ : Type} {keep : β → Bool} {f : β → γ} {g : β → β}
    (hkeep : ∀ b, keep (g b) = keep b) (hf : ∀ b, f (g b) = f b) (bs : List β) (i : Nat) :
    ((bs.modify i g).filter keep).map f = (bs.filter keep).map f := by
  induction bs generalizing i with
  | nil => rw [List.modify_nil]
  | cons b bs ih =>
    cases i with
    | zero =>
      rw [List.modify_zero_cons, List.filter_cons, List.filter_cons, hkeep]
      cases keep b with
      | true => rw [if_pos rfl, if_pos rfl, List.map_cons, List.map_cons, hf]
      | false => rfl
    | succ i =>
      rw [List.modify_succ_cons, List.filter_cons, List.filter_cons]
      cases keep b with
      | true => rw [if_pos rfl, if_pos rfl, List.map_cons, List.map_cons, ih]
      | false => exact ih i

theorem label_modifyAt {g : Tree α → Tree α} (hlabel : ∀ t, (g t).label = t.label) (t : Tree α)
    (p : List Nat) : (t.modifyAt g p).label = t.label := by
  cases p with
  | nil => exact hlabel t
  | cons i p =>
    obtain ⟨a, ts⟩ := t
    rw [modifyAt, label_node, label_node]

/-- A change that pruning undoes may be made anywhere before. -/
theorem prune_modifyAt {g : Tree α → Tree α} (hlabel : ∀ t, (g t).label = t.label)
    (hprune : ∀ t, (g t).prune refused = t.prune refused) (t : Tree α) (p : List Nat) :
    (t.modifyAt g p).prune refused = t.prune refused := by
  induction p generalizing t with
  | nil => exact hprune t
  | cons i p ih =>
    obtain ⟨a, ts⟩ := t
    rw [modifyAt, prune_node, prune_node]
    congr 1
    -- the child that was changed is refused if it was before, and is the same when it is pruned
    refine map_filter_modify (fun t => ?_) (fun t => ih t) ts i
    rw [label_modifyAt hlabel]

end DeclSplit.Tree
