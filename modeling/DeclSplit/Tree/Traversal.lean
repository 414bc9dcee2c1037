import DeclSplit.Tree

/-!
# Traversals with an explicit stack

The recursive definitions on trees nest as deeply as the tree does.  The traversals here keep what
is still to be done in a list instead, so that a very deep tree needs no deep recursion:

* `Tree.walk` — the subtrees in pre-order, from a stack of the trees still to be visited;
* `Tree.collapse` — the value of `Tree.fold`, from a stack of nodes whose children are not all
  finished;
* `Tree.collapseWithin` — the same with a bound on the number of open nodes;
* `Tree.pruneInPlace` — `Tree.prune` as one change at each node, last node first;
* `Tree.clone` — a copy of the tree, made node by node from a stack of nodes whose copies have no
  children yet.
-/

namespace DeclSplit.Tree

variable {α β : Type}

/-! ### Pre-order -/

/-- The trees on the stack with all their subtrees: the top tree first, then its children, which
take its place on the stack. -/
def walkStack (stack : List (Tree α)) : List (Tree α) :=
  match stack with
  | [] => []
  | t :: rest => t :: walkStack (t.children ++ rest)
termination_by forestSize stack
decreasing_by simp only [forestSize_append, forestSize_cons, size_eq t]; omega

/-- Every subtree, the whole first, each before those inside it. -/
def walk (t : Tree α) : List (Tree α) :=
  walkStack [t]

/-! ### Bottom-up -/

/-- A node that has been entered and not left: its label, the children still to be entered, and
the values of those that are finished. -/
structure Frame (α β : Type) where
  label : α
  pending : List (Tree α)
  built : List β

namespace Frame

/-- The frame of a tree that has just been entered. -/
def enter (t : Tree α) : Frame α β :=
  ⟨t.label, t.children, []⟩

/-- The frame after the value of one more child. -/
def attach (frame : Frame α β) (b : β) : Frame α β :=
  { frame with built := frame.built ++ [b] }

/-- What is left to do in a frame: each pending node is entered and left once, and the frame
itself is left once. -/
def work (frame : Frame α β) : Nat :=
  2 * forestSize frame.pending + 1

end Frame

/-- What is left to do on a stack of frames. -/
def stackWork : List (Frame α β) → Nat
  | [] => 0
  | frame :: below => frame.work + stackWork below

/-- Runs the stack of the given top frame and the frames below it until the lowest is left. -/
def collapseStack (f : α → List β → β) : Frame α β → List (Frame α β) → β
  | ⟨a, t :: ts, bs⟩, below => collapseStack f (.enter t) (⟨a, ts, bs⟩ :: below)
  | ⟨a, [], bs⟩, [] => f a bs
  | ⟨a, [], bs⟩, parent :: below => collapseStack f (parent.attach (f a bs)) below
termination_by top below => stackWork (top :: below)
decreasing_by
  · simp [stackWork, Frame.work, Frame.enter, size_eq t]; omega
  · simp [stackWork, Frame.work, Frame.attach]

/-- The value that `f` gives the root from its label and the values of its subtrees. -/
def collapse (f : α → List β → β) (t : Tree α) : β :=
  collapseStack f (.enter t) []

/-- Like `collapseStack`, but a child is entered only while fewer than `limit` frames are open. -/
def collapseStackWithin (limit : Nat) (f : α → List β → β) :
    Frame α β → List (Frame α β) → Option β
  | ⟨a, t :: ts, bs⟩, below =>
    if limit ≤ below.length + 1 then none
    else collapseStackWithin limit f (.enter t) (⟨a, ts, bs⟩ :: below)
  | ⟨a, [], bs⟩, [] => some (f a bs)
  | ⟨a, [], bs⟩, parent :: below => collapseStackWithin limit f (parent.attach (f a bs)) below
termination_by top below => stackWork (top :: below)
decreasing_by
  · simp [stackWork, Frame.work, Frame.enter, size_eq t]; omega
  · simp [stackWork, Frame.work, Frame.attach]

/-- The value of `collapse`, or nothing where more than `limit` nodes would be open at once. -/
def collapseWithin (limit : Nat) (f : α → List β → β) (t : Tree α) : Option β :=
  collapseStackWithin limit f (.enter t) []

/-! ### In place -/

/-- The tree with the refused children of its root left out. -/
def dropChildren (refused : α → Bool) (t : Tree α) : Tree α :=
  .node t.label (t.children.filter fun c => !refused c.label)

/-- Drops the refused children at every node, the last node of the pre-order first, so that a
position still to be visited is never moved by a change. -/
def pruneInPlace (refused : α → Bool) (t : Tree α) : Tree α :=
  t.positions.reverse.foldl (fun t p => t.modifyAt (dropChildren refused) p) t

/-! ### Copies -/

/-- The children of a tree with the positions that are theirs below a node that had `first` children
before; the last child comes first. -/
def pendingChildren (position : List Nat) (first : Nat) (t : Tree α) : List (List Nat × Tree α) :=
  (t.children.mapIdx fun i child => (position ++ [first + i], child)).reverse

theorem forestSize_reverse (ts : List (Tree α)) : forestSize ts.reverse = forestSize ts := by
  induction ts with
  | nil => rfl
  | cons t ts ih =>
    rw [List.reverse_cons, forestSize_append, ih, forestSize_cons, forestSize_cons, forestSize_nil]
    omega

theorem map_snd_pendingChildren (position : List Nat) (first : Nat) (t : Tree α) :
    (pendingChildren position first t).map Prod.snd = t.children.reverse := by
  rw [pendingChildren, List.map_reverse, List.mapIdx_eq_zipIdx_map, List.map_map]
  exact congrArg List.reverse (List.zipIdx_map_fst 0 t.children)

/-- What is left to do on a stack of trees with positions becomes less when the children of the top
tree take its place. -/
theorem forestSize_pendingChildren_lt (position : List Nat) (first : Nat) (t : Tree α)
    (rest : List (List Nat × Tree α)) :
    forestSize ((pendingChildren position first t ++ rest).map Prod.snd) <
      forestSize (((position, t) :: rest).map Prod.snd) := by
  rw [List.map_append, forestSize_append, map_snd_pendingChildren, forestSize_reverse, List.map_cons,
    forestSize_cons, size_eq t]
  omega

/-- Gives the copy of a node one more child for each child of the node, none of which has children
itself. -/
def copyChildren (t copy : Tree α) : Tree α :=
  .node copy.label (copy.children ++ t.children.map fun child => .node child.label [])

/-- Gives the copies of the nodes on a stack their children, and the copies of these theirs, until none
is left; with each node comes the position of its copy. -/
def cloneStack (copy : Tree α) (stack : List (List Nat × Tree α)) : Tree α :=
  match stack with
  | [] => copy
  | (position, t) :: rest =>
    let first := ((copy.at? position).map fun c => c.children.length).getD 0
    cloneStack (copy.modifyAt (copyChildren t) position) (pendingChildren position first t ++ rest)
termination_by forestSize (stack.map Prod.snd)
decreasing_by exact forestSize_pendingChildren_lt ..

/-- A copy of the tree. -/
def clone (t : Tree α) : Tree α :=
  cloneStack (.node t.label []) [([], t)]

end DeclSplit.Tree
