import DeclSplit.Proofs.Tree.Recursion

/-!
# The fold from a stack

An open node has the values of the children that are finished, the children that are still pending,
and between them, unless it is the innermost one, the child that is open too.  What becomes of it in the
end is known from these at every step.

* `Tree.stackValue` — what a stack of open nodes comes to, with `stackValue_enter` and
  `stackValue_leave` for the two steps;
* `Tree.collapse_eq_fold` — the run has the value of the fold;
* `Tree.collapseWithin_eq` — the run with a bound has this value too if the tree has no more levels than
  the bound, and no value otherwise.
-/

namespace DeclSplit.Tree

variable {α β : Type}

/-! ### Without a bound -/

/-- The value that a frame has in the end, with the given values between those of its finished and those
of its pending children. -/
def Frame.finish (f : α → List β → β) (between : List β) (frame : Frame α β) : β :=
  f frame.label (frame.built ++ between ++ frame.pending.map (fold f))

/-- The value of the lowest frame in the end: each frame below the top waits for the value of the one
above it. -/
def stackValue (f : α → List β → β) (top : Frame α β) (below : List (Frame α β)) : β :=
  below.foldl (fun b frame => frame.finish f [b]) (top.finish f [])

theorem finish_enter (f : α → List β → β) (t : Tree α) : (Frame.enter t).finish f [] = t.fold f := by
  cases t with
  | node a ts => rw [fold_node]; rfl

/-- Entering the next pending child takes its value from the pending ones. -/
theorem stackValue_enter (f : α → List β → β) (a : α) (t : Tree α) (ts : List (Tree α)) (bs : List β)
    (below : List (Frame α β)) :
    stackValue f (.enter t) (⟨a, ts, bs⟩ :: below) = stackValue f ⟨a, t :: ts, bs⟩ below := by
  have hframe : (Frame.mk a ts bs).finish f [t.fold f] = (Frame.mk a (t :: ts) bs).finish f [] := by
    rw [Frame.finish, Frame.finish, List.map_cons, List.append_nil, List.append_assoc,
      List.singleton_append]
  rw [stackValue, stackValue, List.foldl_cons, finish_enter, hframe]

/-- Leaving a node adds its value to the finished ones of the frame below. -/
theorem stackValue_leave (f : α → List β → β) (a : α) (bs : List β) (parent : Frame α β)
    (below : List (Frame α β)) :
    stackValue f (parent.attach (f a bs)) below = stackValue f ⟨a, [], bs⟩ (parent :: below) := by
  have htop : (Frame.mk a [] bs).finish f [] = f a bs := by
    rw [Frame.finish, List.append_nil, List.map_nil, List.append_nil]
  have hparent : (parent.attach (f a bs)).finish f [] = parent.finish f [f a bs] := by
    rw [Frame.finish, Frame.finish, Frame.attach, List.append_nil]
  rw [stackValue, stackValue, List.foldl_cons, htop, hparent]

theorem collapseStack_eq_stackValue (f : α → List β → β) (top : Frame α β)
    (below : List (Frame α β)) : collapseStack f top below = stackValue f top below := by
  fun_induction collapseStack f top below with
  | case1 a t ts bs below ih => rw [ih, stackValue_enter]
  | case2 a bs =>
    rw [stackValue, List.foldl_nil, Frame.finish, List.append_nil, List.map_nil, List.append_nil]
  | case3 a bs parent below ih => rw [ih, stackValue_leave]

/-- The run from a stack has the value of the fold. -/
theorem collapse_eq_fold (f : α → List β → β) (t : Tree α) : t.collapse f = t.fold f := by
  rw [collapse, collapseStack_eq_stackValue, stackValue, List.foldl_nil, finish_enter]

/-! ### With a bound -/

/-- What a run does with the value of a node that is left: it is the value of the run, or one more
value of the frame below. -/
def resumeWithin (limit : Nat) (f : α → List β → β) (b : β) : List (Frame α β) → Option β
  | [] => some b
  | parent :: below => collapseStackWithin limit f (parent.attach b) below

theorem collapseStackWithin_leave (limit : Nat) (f : α → List β → β) (a : α) (bs : List β)
    (below : List (Frame α β)) :
    collapseStackWithin limit f ⟨a, [], bs⟩ below = resumeWithin limit f (f a bs) below := by
  cases below with
  | nil => rw [collapseStackWithin, resumeWithin]
  | cons parent below => rw [collapseStackWithin, resumeWithin]

/-- What is known of the run of a tree that is entered above the frames `below`. -/
def LeavesWithin (limit : Nat) (f : α → List β → β) (t : Tree α) : Prop :=
  ∀ below : List (Frame α β), below.length < limit →
    collapseStackWithin limit f (.enter t) below =
      if t.depth + below.length ≤ limit then resumeWithin limit f (t.fold f) below else none

/-- The pending children of a frame are entered and left one after the other. -/
theorem collapseStackWithin_pending {limit : Nat} {f : α → List β → β} (a : α) (ts : List (Tree α))
    (hts : ∀ t ∈ ts, LeavesWithin limit f t) (bs : List β) (below : List (Frame α β)) :
    collapseStackWithin limit f ⟨a, ts, bs⟩ below =
      if ∀ t ∈ ts, t.depth + (below.length + 1) ≤ limit then
        resumeWithin limit f (f a (bs ++ ts.map (fold f))) below
      else none := by
  induction ts generalizing bs with
  | nil =>
    rw [collapseStackWithin_leave, if_pos (fun t ht => absurd ht List.not_mem_nil), List.map_nil,
      List.append_nil]
  | cons t ts ih =>
    rw [collapseStackWithin]
    by_cases hfull : limit ≤ below.length + 1
    · have hdepth := depth_pos t
      rw [if_pos hfull, if_neg]
      intro hall
      have := hall t List.mem_cons_self
      omega
    · rw [if_neg hfull, hts t List.mem_cons_self _ (by rw [List.length_cons]; omega), List.length_cons]
      by_cases ht : t.depth + (below.length + 1) ≤ limit
      · have hafter := ih (fun u hu => hts u (List.mem_cons_of_mem t hu)) (bs ++ [t.fold f])
        rw [if_pos ht, resumeWithin, Frame.attach, hafter, List.append_assoc, List.singleton_append,
          List.map_cons]
        simp only [List.forall_mem_cons, ht, true_and]
      · rw [if_neg ht, if_neg fun hall => ht (hall t List.mem_cons_self)]

theorem leavesWithin (limit : Nat) (f : α → List β → β) (t : Tree α) : LeavesWithin limit f t := by
  induction t with
  | node a ts ih =>
    intro below hbelow
    obtain ⟨spare, hspare⟩ : ∃ spare, limit = below.length + (spare + 1) :=
      ⟨limit - below.length - 1, by omega⟩
    have hdepth : (node a ts).depth + below.length ≤ limit ↔
        ∀ t ∈ ts, t.depth + (below.length + 1) ≤ limit := by
      rw [hspare, Nat.add_comm, Nat.add_le_add_iff_left, depth_le_iff]
      refine forall_congr' fun t => imp_congr Iff.rfl ?_
      omega
    rw [Frame.enter, label_node, children_node, collapseStackWithin_pending a ts ih, List.nil_append,
      fold_node]
    simp only [hdepth]

/-- The bounded run has the value of the fold, unless the tree has more levels than the bound. -/
theorem collapseWithin_eq {limit : Nat} (hlimit : 0 < limit) (f : α → List β → β) (t : Tree α) :
    t.collapseWithin limit f = if t.depth ≤ limit then some (t.fold f) else none := by
  rw [collapseWithin, leavesWithin limit f t [] hlimit]
  rfl

end DeclSplit.Tree
