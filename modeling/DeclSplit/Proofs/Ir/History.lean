import DeclSplit.Ir.Dependencies
import DeclSplit.Ir.Optimize
import DeclSplit.Ir.Segment
import DeclSplit.Proofs.Ir.Build
import DeclSplit.Proofs.Ir.Segment
import DeclSplit.Proofs.NameSet
import DeclSplit.Proofs.Tree.Relabelling
import DeclSplit.Proofs.Tree.Subtrees
import Mathlib.Logic.Function.Iterate

/-!
# What every sequence of operations keeps

Trees of the intermediate representation are built, copied, pruned, split and grown in any order.  The
marks for control flow and the names of the children among the dependencies are right in every tree that
is then held, and a node that was once pruned never gets a grouping node below it again.

For the second part a node must be followed through the operations that move or copy it.  So every
operation is said a second time for trees whose nodes also note which grouping kinds were left out below
them.  No operation looks at the notes, so forgetting them gives the operations themselves; and what each
of them does to the notes is part of the result.

* `Ir.History.Step` — one operation on the trees that are held;
* `Ir.History.Handling` — how the operations work on trees with labels of some type, with
  `Ir.History.plain` for labels alone and `Ir.History.noting` for labels with notes;
* `Ir.History.Handling.run` — the trees that are held after a sequence of operations;
* `Ir.History.IsKept` — what holds of every node of them;
* `Ir.History.GoesOn` — what one more operation does to the trees and to the notes;
* `Ir.History.run_keeps` — both, after every sequence.
-/

namespace DeclSplit.Ir.History

/-! ### Operations -/

/-- A node of a tree that is held: the number of the tree, and the position of the node in it. -/
structure Ref where
  tree : Nat
  position : List Nat

/-- One operation on the trees that are held.  Trees that are built, copied or split off are held
after all others; pruning and growing change trees where they are. -/
inductive Step where
  | build (ast : Ast)
  | clone (of : Ref)
  | optimize (of : Ref) (w : Vocabulary)
  | segment (of : Ref) (w : Vocabulary)
  /-- The trees with the given numbers are grown one after the other, through the given table or through
  their own, taken before any of them grows. -/
  | resolve (of : List Nat) (table : Option (DependencyTable String))

/-- How the operations work on trees with labels of a type. -/
structure Handling (α : Type) where
  build : Ast → Tree α
  optimize : Vocabulary → Tree α → Tree α
  segments : Vocabulary → Tree α → List (Tree α)
  expand : DependencyTable String → Tree α → Tree α
  forget : Tree α → Ir String

/-- The subtree at a node, if there is one. -/
def subtree? {α : Type} (held : List (Tree α)) (of : Ref) : Option (Tree α) :=
  held[of.tree]?.bind (·.at? of.position)

namespace Handling

variable {α : Type} (o : Handling α)

/-- The table through which the trees with the given numbers grow. -/
def tableOf (held : List (Tree α)) (of : List Nat) :
    Option (DependencyTable String) → DependencyTable String
  | some table => table
  | none => .ofSegments (of.filterMap fun i => held[i]?.map o.forget)

/-- The trees that are held after one more operation; one on a node that is not there does nothing. -/
def perform (held : List (Tree α)) : Step → List (Tree α)
  | .build ast => held ++ [o.build ast]
  | .clone of => held ++ ((subtree? held of).map Tree.clone).toList
  | .optimize of w => held.modify of.tree (Tree.modifyAt (o.optimize w) of.position)
  | .segment of w => held ++ (subtree? held of).toList.flatMap (o.segments w)
  | .resolve of table =>
    of.foldl (fun held' i => held'.modify i (o.expand (o.tableOf held of table))) held

/-- The trees that are held after a sequence of operations that starts with no tree. -/
def run (steps : List Step) : List (Tree α) :=
  steps.foldl o.perform []

end Handling

/-- The operations, with trees built for the vocabulary `v`. -/
def plain (v : Vocabulary) : Handling (Label String) where
  build := Ir.build v
  optimize := Ir.optimize
  segments := Ir.segments
  expand := Ir.expand
  forget := id

/-- A label and a note of the grouping kinds that were left out below its node. -/
structure Noted where
  label : Label String
  cleared : List String

/-- A label of a node below which nothing was left out yet. -/
def Noted.ofLabel (label : Label String) : Noted :=
  ⟨label, []⟩

/-- A label that notes one more kind. -/
def Noted.note (kind : String) (n : Noted) : Noted :=
  { n with cleared := kind :: n.cleared }

@[simp] theorem Noted.label_note (kind : String) (n : Noted) : (n.note kind).label = n.label := rfl

/-- The tree without the notes. -/
def forget (t : Tree Noted) : Ir String :=
  t.map Noted.label

/-- The operations on trees with notes.  Where a tree is pruned, every node that stays notes the grouping
kind; a node that is moved or copied takes its notes with it. -/
def noting (v : Vocabulary) : Handling Noted where
  build ast := (Ir.build v ast).map Noted.ofLabel
  optimize w t := (t.pruneInPlace fun n => w.isGrouping n.label.kind).map (.note w.groupingKind)
  segments w t := (t.walk.filter fun s => w.isDeclaration s.label.label.kind).map Tree.clone
  expand table t := .node { t.label with label := ((forget t).expand table).label } t.children
  forget := forget

/-! ### Forgetting the notes -/

section Forgetting

variable (v : Vocabulary)

theorem forget_build (ast : Ast) : forget ((noting v).build ast) = (plain v).build ast :=
  Tree.map_map_of_leftInverse Noted.ofLabel (fun _ => rfl) (Ir.build v ast)

theorem forget_optimize (w : Vocabulary) (t : Tree Noted) :
    forget ((noting v).optimize w t) = (plain v).optimize w (forget t) := by
  show (Tree.map _ _).map Noted.label = (forget t).pruneInPlace fun label => w.isGrouping label.kind
  rw [Tree.map_map, forget, Tree.pruneInPlace_map]
  rfl

theorem noting_segments_eq (w : Vocabulary) (t : Tree Noted) :
    (noting v).segments w t = t.preorder.filter fun s => w.isDeclaration s.label.label.kind := by
  have hclone : (Tree.clone : Tree Noted → Tree Noted) = id := funext Tree.clone_eq_self
  show (t.walk.filter _).map Tree.clone = _
  rw [hclone, List.map_id, Tree.walk_eq_preorder]

theorem forget_segments (w : Vocabulary) (t : Tree Noted) :
    ((noting v).segments w t).map forget = (plain v).segments w (forget t) := by
  show _ = (forget t).segmentsWhere w.isDeclaration
  rw [noting_segments_eq, segmentsWhere_eq_filter, forget, Tree.preorder_map, List.filter_map]
  simp only [Function.comp_def, Tree.label_map]
  rfl

theorem forget_expand (table : DependencyTable String) (t : Tree Noted) :
    forget ((noting v).expand table t) = (plain v).expand table (forget t) := by
  show forget (.node _ _) = (forget t).expand table
  rw [forget, Tree.map_node, ← Tree.children_map]
  rfl

theorem subtree?_map_forget (held : List (Tree Noted)) (of : Ref) :
    subtree? (held.map forget) of = (subtree? held of).map forget := by
  rw [subtree?, subtree?, List.getElem?_map]
  cases held[of.tree]? with
  | none => rfl
  | some t => exact Tree.at?_map Noted.label t of.position

theorem tableOf_map_forget (held : List (Tree Noted)) (of : List Nat)
    (table : Option (DependencyTable String)) :
    (plain v).tableOf (held.map forget) of table = (noting v).tableOf held of table := by
  cases table with
  | some table => rfl
  | none =>
    rw [Handling.tableOf, Handling.tableOf]
    congr 2
    funext i
    rw [List.getElem?_map, Option.map_map]
    rfl

/-- The operations on trees with notes are the operations, apart from the notes. -/
theorem map_forget_perform (held : List (Tree Noted)) (step : Step) :
    ((noting v).perform held step).map forget = (plain v).perform (held.map forget) step := by
  cases step with
  | build ast =>
    rw [Handling.perform, Handling.perform, List.map_append, ← forget_build]
    rfl
  | clone of =>
    rw [Handling.perform, Handling.perform, List.map_append, subtree?_map_forget]
    cases subtree? held of with
    | none => rfl
    | some t =>
      rw [Option.map_some, Option.map_some, Option.map_some, Tree.clone_eq_self, Tree.clone_eq_self]
      rfl
  | optimize of w =>
    rw [Handling.perform, Handling.perform, Tree.map_modify]
    intro t
    exact Tree.modifyAt_map (fun s => forget_optimize v w s) t of.position
  | segment of w =>
    rw [Handling.perform, Handling.perform, List.map_append, subtree?_map_forget]
    cases subtree? held of with
    | none => rfl
    | some t =>
      show _ ++ List.map forget ((noting v).segments w t ++ []) =
        _ ++ ((plain v).segments w (forget t) ++ [])
      rw [List.append_nil, List.append_nil, forget_segments]
  | resolve of table =>
    rw [Handling.perform, Handling.perform, tableOf_map_forget]
    generalize (noting v).tableOf held of table = table
    induction of generalizing held with
    | nil => rfl
    | cons i of ih =>
      rw [List.foldl_cons, List.foldl_cons, ih, Tree.map_modify fun t => forget_expand v table t]

theorem map_forget_run (steps : List Step) :
    ((noting v).run steps).map forget = (plain v).run steps := by
  rw [Handling.run, Handling.run]
  generalize hheld : ([] : List (Tree Noted)) = held
  have hstart : ([] : List (Ir String)) = held.map forget := by rw [← hheld, List.map_nil]
  rw [hstart]
  clear hheld hstart
  induction steps generalizing held with
  | nil => rfl
  | cons step steps ih => rw [List.foldl_cons, List.foldl_cons, ih, map_forget_perform]

end Forgetting

/-! ### What holds of every node -/

/-- What every operation keeps of a node: its mark, the names of its children among its dependencies,
and that no node below it is of a kind that was left out there. -/
structure IsKept (v : Vocabulary) (t : Tree Noted) : Prop where
  controlFlow_iff : t.label.label.controlFlow = some .branch ↔ v.isBranch t.label.label.kind = true
  name_mem : ∀ c ∈ t.children, c.label.label.name ∈ t.label.label.dependencies
  kind_ne : ∀ kind ∈ t.label.cleared, ∀ d ∈ t.descendants, d.label.label.kind ≠ kind

/-- The tree `t'` can stand for the child `t`: it has its name, and its nodes have no new kinds. -/
structure StandsFor (t t' : Tree Noted) : Prop where
  kind_eq : t'.label.label.kind = t.label.label.kind
  name_eq : t'.label.label.name = t.label.label.name
  kind_mem : ∀ d' ∈ t'.descendants, ∃ d ∈ t.descendants, d.label.label.kind = d'.label.label.kind

theorem StandsFor.refl (t : Tree Noted) : StandsFor t t :=
  ⟨rfl, rfl, fun d hd => ⟨d, hd, rfl⟩⟩

theorem StandsFor.trans {t t' t'' : Tree Noted} (h : StandsFor t t') (h' : StandsFor t' t'') :
    StandsFor t t'' := by
  refine ⟨h'.kind_eq.trans h.kind_eq, h'.name_eq.trans h.name_eq, fun d hd => ?_⟩
  obtain ⟨e, he, hde⟩ := h'.kind_mem d hd
  obtain ⟨e', he', hee⟩ := h.kind_mem e he
  exact ⟨e', he', hee.trans hde⟩

/-- A node whose children are stood for. -/
theorem StandsFor.node {a : Noted} {ts us : List (Tree Noted)}
    (h : ∀ u ∈ us, ∃ t ∈ ts, StandsFor t u) : StandsFor (.node a ts) (.node a us) := by
  refine ⟨rfl, rfl, fun d hd => ?_⟩
  obtain ⟨u, hu, hdu⟩ := Tree.mem_descendants_iff.1 hd
  obtain ⟨t, ht, htu⟩ := h u hu
  rcases Tree.mem_preorder_iff.1 hdu with rfl | hdu
  · exact ⟨t, Tree.mem_descendants_iff.2 ⟨t, ht, Tree.self_mem_preorder t⟩, htu.kind_eq.symm⟩
  · obtain ⟨e, he, hde⟩ := htu.kind_mem d hdu
    exact ⟨e, Tree.mem_descendants_iff.2 ⟨t, ht, Tree.mem_preorder_iff.2 (.inr he)⟩, hde⟩

theorem IsKept.node {v : Vocabulary} {a : Noted} {ts us : List (Tree Noted)}
    (hkept : IsKept v (.node a ts)) (h : ∀ u ∈ us, ∃ t ∈ ts, StandsFor t u) :
    IsKept v (.node a us) := by
  refine ⟨hkept.controlFlow_iff, fun u hu => ?_, fun kind hkind d hd => ?_⟩
  · obtain ⟨t, ht, htu⟩ := h u hu
    rw [htu.name_eq]
    exact hkept.name_mem t ht
  · obtain ⟨e, he, hde⟩ := (StandsFor.node (a := a) h).kind_mem d hd
    rw [← hde]
    exact hkept.kind_ne kind hkind e he

/-! ### What holds everywhere in a tree

Each operation keeps it, first at the node that it works on, then above that node. -/

section Everywhere

variable {v : Vocabulary}

theorem everywhere_build (ast : Ast) : ((noting v).build ast).Everywhere (IsKept v) := by
  show ((Ir.build v ast).map Noted.ofLabel).Everywhere (IsKept v)
  rw [Ir.build_eq_ofAst]
  induction ast using Tree.induction with
  | node label ts ih =>
    rw [Ir.ofAst_node, Ir.ofNode, Tree.map_node, Tree.everywhere_iff, Tree.children_node]
    refine ⟨⟨?_, fun c hc => ?_, fun kind hkind => absurd hkind List.not_mem_nil⟩, ?_⟩
    · exact controlFlow_ofNode v label (ts.map (ofAst v))
    · obtain ⟨t, ht, rfl⟩ := List.mem_map.1 hc
      rw [Tree.label_map]
      exact NameSet.mem_ofList.2 (List.mem_map_of_mem ht)
    · rw [List.map_map, List.forall_mem_map]
      exact ih

/-! #### Pruning -/

theorem standsFor_prune (refused : Noted → Bool) (t : Tree Noted) : StandsFor t (t.prune refused) := by
  refine ⟨by rw [Tree.label_prune], by rw [Tree.label_prune], fun d hd => ?_⟩
  obtain ⟨e, he, hlabel⟩ := Tree.exists_label_of_mem_descendants_prune hd
  exact ⟨e, he, by rw [hlabel]⟩

theorem IsKept.prune {t : Tree Noted} (h : IsKept v t) (refused : Noted → Bool) :
    IsKept v (t.prune refused) := by
  cases t with
  | node a ts =>
    rw [Tree.prune_node]
    refine h.node fun u hu => ?_
    obtain ⟨t, ht, rfl⟩ := List.mem_map.1 hu
    exact ⟨t, List.mem_of_mem_filter ht, standsFor_prune refused t⟩

theorem standsFor_note (kind : String) (t : Tree Noted) : StandsFor t (t.map (.note kind)) := by
  refine ⟨by rw [Tree.label_map, Noted.label_note], by rw [Tree.label_map, Noted.label_note], fun d hd => ?_⟩
  rw [Tree.descendants_map] at hd
  obtain ⟨e, he, rfl⟩ := List.mem_map.1 hd
  exact ⟨e, he, by rw [Tree.label_map, Noted.label_note]⟩

/-- The nodes of a tree can note a kind that no node below the root has. -/
theorem IsKept.note {t : Tree Noted} (h : IsKept v t) {kind : String}
    (hkind : ∀ d ∈ t.descendants, d.label.label.kind ≠ kind) : IsKept v (t.map (.note kind)) := by
  refine ⟨?_, fun c hc => ?_, fun k hk d hd => ?_⟩
  · rw [Tree.label_map]
    exact h.controlFlow_iff
  · rw [Tree.children_map] at hc
    obtain ⟨c', hc', rfl⟩ := List.mem_map.1 hc
    rw [Tree.label_map, Tree.label_map]
    exact h.name_mem c' hc'
  · rw [Tree.descendants_map] at hd
    obtain ⟨d', hd', rfl⟩ := List.mem_map.1 hd
    rw [Tree.label_map] at hk
    rw [Tree.label_map, Noted.label_note]
    rcases List.mem_cons.1 hk with rfl | hk
    · exact hkind d' hd'
    · exact h.kind_ne k hk d' hd'

theorem noting_optimize_eq (w : Vocabulary) (t : Tree Noted) :
    (noting v).optimize w t =
      (t.prune fun n => w.isGrouping n.label.kind).map (.note w.groupingKind) := by
  rw [noting]
  dsimp only
  rw [Tree.pruneInPlace_eq_prune]

theorem standsFor_optimize (w : Vocabulary) (t : Tree Noted) :
    StandsFor t ((noting v).optimize w t) := by
  rw [noting_optimize_eq]
  exact (standsFor_prune _ t).trans (standsFor_note _ _)

theorem everywhere_optimize (w : Vocabulary) {t : Tree Noted} (h : t.Everywhere (IsKept v)) :
    ((noting v).optimize w t).Everywhere (IsKept v) := by
  rw [noting_optimize_eq]
  intro s hs
  rw [Tree.preorder_map] at hs
  obtain ⟨p, hp, rfl⟩ := List.mem_map.1 hs
  obtain ⟨u, hu, rfl⟩ := Tree.mem_preorder_prune hp
  refine ((h u hu).prune _).note fun d hd => ?_
  have hrefused := Tree.not_refused_of_mem_descendants_prune (Tree.mem_descendants_trans hd hp)
  rw [Vocabulary.isGrouping, beq_eq_false_iff_ne] at hrefused
  exact hrefused

/-! #### Growing -/

theorem noting_expand_eq (table : DependencyTable String) (t : Tree Noted) :
    (noting v).expand table t =
      .node { t.label with
        label.dependencies := t.label.label.dependencies ∪ table.reached t.label.label.dependencies }
        t.children := by
  show Tree.node { t.label with label := ((forget t).expand table).label } t.children = _
  rw [Ir.expand, Ir.mapRoot, Tree.label_node, forget, Tree.label_map]

theorem everywhere_expand (table : DependencyTable String) {t : Tree Noted}
    (h : t.Everywhere (IsKept v)) : ((noting v).expand table t).Everywhere (IsKept v) := by
  rw [Tree.everywhere_iff] at h
  rw [noting_expand_eq, Tree.everywhere_iff]
  refine ⟨⟨h.1.controlFlow_iff, fun c hc => ?_, h.1.kind_ne⟩, h.2⟩
  exact NameSet.mem_union.2 (.inl (h.1.name_mem c hc))

/-! #### A change at a position -/

variable {g : Tree Noted → Tree Noted}

theorem standsFor_modifyAt (hg : ∀ t, StandsFor t (g t)) (t : Tree Noted) (p : List Nat) :
    StandsFor t (t.modifyAt g p) := by
  induction p generalizing t with
  | nil => exact hg t
  | cons i p ih =>
    cases t with
    | node a ts =>
      refine StandsFor.node fun u hu => ?_
      obtain ⟨t, ht, rfl | rfl⟩ := Tree.mem_modify hu
      · exact ⟨u, ht, .refl u⟩
      · exact ⟨t, ht, ih t⟩

theorem everywhere_modifyAt (hg : ∀ t, StandsFor t (g t))
    (hkeeps : ∀ t, t.Everywhere (IsKept v) → (g t).Everywhere (IsKept v)) {t : Tree Noted}
    (p : List Nat) (h : t.Everywhere (IsKept v)) : (t.modifyAt g p).Everywhere (IsKept v) := by
  induction p generalizing t with
  | nil => exact hkeeps t h
  | cons i p ih =>
    cases t with
    | node a ts =>
      rw [Tree.everywhere_iff] at h
      rw [Tree.modifyAt, Tree.everywhere_iff]
      constructor
      · refine h.1.node fun u hu => ?_
        obtain ⟨t, ht, rfl | rfl⟩ := Tree.mem_modify hu
        · exact ⟨u, ht, .refl u⟩
        · exact ⟨t, ht, standsFor_modifyAt hg t p⟩
      · intro u hu
        obtain ⟨t, ht, rfl | rfl⟩ := Tree.mem_modify hu
        · exact h.2 u ht
        · exact ih (h.2 t ht)

end Everywhere

/-! ### Sequences of operations -/

theorem subtree?_modify {α : Type} (held : List (Tree α)) (of : Ref) (g : Tree α → Tree α) :
    subtree? (held.modify of.tree (Tree.modifyAt g of.position)) of = (subtree? held of).map g := by
  rw [subtree?, subtree?, List.getElem?_modify]
  cases held[of.tree]? with
  | none => rfl
  | some t => simpa using Tree.at?_modifyAt g t of.position

theorem everywhere_subtree? {v : Vocabulary} {held : List (Tree Noted)}
    (h : ∀ t ∈ held, t.Everywhere (IsKept v)) {of : Ref} {s : Tree Noted}
    (hs : subtree? held of = some s) : s.Everywhere (IsKept v) := by
  rw [subtree?, Option.bind_eq_some_iff] at hs
  obtain ⟨t, ht, hts⟩ := hs
  exact (h t (List.mem_of_getElem? ht)).of_mem (Tree.mem_preorder_of_at? hts)

theorem everywhere_modify {v : Vocabulary} {held : List (Tree Noted)} {g : Tree Noted → Tree Noted}
    (hg : ∀ t, t.Everywhere (IsKept v) → (g t).Everywhere (IsKept v))
    (h : ∀ t ∈ held, t.Everywhere (IsKept v)) (i : Nat) :
    ∀ t ∈ held.modify i g, t.Everywhere (IsKept v) := by
  intro u hu
  obtain ⟨t, ht, rfl | rfl⟩ := Tree.mem_modify hu
  · exact h u ht
  · exact hg t (h t ht)

/-- Each member of a list is changed as often as its place is named. -/
theorem getElem?_foldl_modify {β : Type} (g : β → β) (places : List Nat) (xs : List β) (i : Nat) :
    (places.foldl (fun xs j => xs.modify j g) xs)[i]? = xs[i]?.map g^[places.count i] := by
  induction places generalizing xs with
  | nil =>
    rw [List.foldl_nil, List.count_nil, Function.iterate_zero]
    exact (Option.map_id_apply).symm
  | cons j places ih =>
    rw [List.foldl_cons, ih, List.getElem?_modify, List.count_cons]
    cases xs[i]? with
    | none => rfl
    | some x =>
      by_cases hij : j = i
      · simp [hij, Function.iterate_succ]
      · simp [hij]

/-- One operation keeps what holds of every node. -/
theorem perform_keeps (v : Vocabulary) {held : List (Tree Noted)}
    (h : ∀ t ∈ held, t.Everywhere (IsKept v)) (step : Step) :
    ∀ t ∈ (noting v).perform held step, t.Everywhere (IsKept v) := by
  cases step with
  | build ast =>
    intro t ht
    rcases List.mem_append.1 ht with ht | ht
    · exact h t ht
    · rw [List.mem_singleton.1 ht]
      exact everywhere_build ast
  | clone of =>
    intro t ht
    rcases List.mem_append.1 ht with ht | ht
    · exact h t ht
    · obtain ⟨s, hs, rfl⟩ := Option.map_eq_some_iff.1 (Option.mem_toList.1 ht)
      rw [Tree.clone_eq_self]
      exact everywhere_subtree? h hs
  | optimize of w =>
    refine everywhere_modify (fun t ht => ?_) h of.tree
    exact everywhere_modifyAt (standsFor_optimize w) (fun s hs => everywhere_optimize w hs) of.position ht
  | segment of w =>
    intro t ht
    rcases List.mem_append.1 ht with ht | ht
    · exact h t ht
    · obtain ⟨s, hs, hts⟩ := List.mem_flatMap.1 ht
      rw [noting_segments_eq] at hts
      exact (everywhere_subtree? h (Option.mem_toList.1 hs)).of_mem (List.mem_of_mem_filter hts)
  | resolve of table =>
    rw [Handling.perform]
    generalize (noting v).tableOf held of table = table
    induction of generalizing held with
    | nil => exact h
    | cons i of ih =>
      exact ih (everywhere_modify (fun t ht => everywhere_expand table ht) h i)

theorem everywhere_run (v : Vocabulary) (steps : List Step) :
    ∀ t ∈ (noting v).run steps, t.Everywhere (IsKept v) := by
  suffices hsteps : ∀ held : List (Tree Noted), (∀ t ∈ held, t.Everywhere (IsKept v)) →
      ∀ t ∈ steps.foldl (noting v).perform held, t.Everywhere (IsKept v) from
    hsteps [] fun t ht => absurd ht List.not_mem_nil
  induction steps with
  | nil => exact fun held h => h
  | cons step steps ih => exact fun held h => ih _ (perform_keeps v h step)

/-! ### One more operation -/

/-- What one more operation does to the trees that are held and to the notes: `next` gives the trees that
are held after it. -/
structure GoesOn (v : Vocabulary) (held : List (Tree Noted)) (next : Step → List (Tree Noted)) :
    Prop where
  /-- One more tree is held. -/
  build : ∀ ast, ∃ t, next (.build ast) = held ++ [t] ∧ forget t = Ir.build v ast
  /-- The subtree at the node is held once more, with its notes. -/
  clone : ∀ of, next (.clone of) = held ++ (subtree? held of).toList
  /-- Only the subtree at the node changes.  What is left of it are the nodes that no grouping node hides;
  each of them keeps its notes and notes the grouping kind. -/
  optimize : ∀ of w, ∃ change : Tree Noted → Tree Noted,
    next (.optimize of w) = held.modify of.tree (Tree.modifyAt change of.position) ∧
    subtree? (next (.optimize of w)) of = (subtree? held of).map change ∧
    ∀ s, forget (change s) = (forget s).optimize w ∧
      (change s).labels = (s.openSubtrees fun n => w.isGrouping n.label.kind).map fun u =>
        u.label.note w.groupingKind
  /-- The segments of the subtree at the node are held too.  They are subtrees of it, with their notes. -/
  segment : ∀ of w, ∃ split : Tree Noted → List (Tree Noted),
    next (.segment of w) = held ++ (subtree? held of).toList.flatMap split ∧
    ∀ s, (split s).map forget = (forget s).segments w ∧ ∀ u ∈ split s, u ∈ s.preorder
  /-- A tree grows as often as it is named, and no other tree changes.  Only its root gains dependencies,
  and it keeps its notes. -/
  resolve : ∀ of table, ∃ grow : Tree Noted → Tree Noted,
    (∀ i : Nat, (next (.resolve of table))[i]? = held[i]?.map grow^[of.count i]) ∧
    ∀ t, forget (grow t) = (forget t).expand ((plain v).tableOf (held.map forget) of table) ∧
      (grow t).label.cleared = t.label.cleared ∧ (grow t).children = t.children

theorem goesOn_perform (v : Vocabulary) (held : List (Tree Noted)) :
    GoesOn v held ((noting v).perform held) where
  build ast := ⟨(noting v).build ast, rfl, forget_build v ast⟩
  clone of := by
    have hclone : (Tree.clone : Tree Noted → Tree Noted) = id := funext Tree.clone_eq_self
    rw [Handling.perform, hclone, Option.map_id_fun]
    rfl
  optimize of w := by
    refine ⟨(noting v).optimize w, rfl, subtree?_modify .., fun s => ⟨forget_optimize v w s, ?_⟩⟩
    rw [noting_optimize_eq, Tree.labels_map, Tree.labels_prune, List.map_map]
    rfl
  segment of w := by
    refine ⟨(noting v).segments w, rfl, fun s => ⟨forget_segments v w s, fun u hu => ?_⟩⟩
    rw [noting_segments_eq] at hu
    exact List.mem_of_mem_filter hu
  resolve of table := by
    refine ⟨(noting v).expand ((noting v).tableOf held of table), fun i => ?_, fun t => ⟨?_, ?_, ?_⟩⟩
    · exact getElem?_foldl_modify _ of held i
    · rw [forget_expand, tableOf_map_forget]
      rfl
    · rw [noting_expand_eq, Tree.label_node]
    · rw [noting_expand_eq, Tree.children_node]

/-- After every sequence of operations each node of each tree that is held has a mark exactly if its
kind is a branch kind, and has the names of its children among its dependencies.  No node below a node
is ever of a kind that the node notes.  As for the notes, every node that is left where a tree is pruned
notes the grouping kind, and no other operation takes a note from a node or from a copy of it. -/
theorem run_keeps (v : Vocabulary) (steps : List Step) :
    (∀ t ∈ (plain v).run steps, ∀ s ∈ t.preorder,
      (s.label.controlFlow = some .branch ↔ v.isBranch s.label.kind = true) ∧
        ∀ c ∈ s.children, c.label.name ∈ s.label.dependencies) ∧
    ((noting v).run steps).map forget = (plain v).run steps ∧
    (∀ t ∈ (noting v).run steps, ∀ s ∈ t.preorder, ∀ kind ∈ s.label.cleared,
      ∀ d ∈ (forget s).descendants, d.label.kind ≠ kind) ∧
    GoesOn v ((noting v).run steps) fun step => (noting v).run (steps ++ [step]) := by
  refine ⟨?_, map_forget_run v steps, fun t ht s hs kind hkind d hd => ?_, ?_⟩
  · rw [← map_forget_run, List.forall_mem_map]
    intro t ht s hs
    rw [forget, Tree.preorder_map] at hs
    obtain ⟨u, hu, rfl⟩ := List.mem_map.1 hs
    have hkept := everywhere_run v steps t ht u hu
    rw [Tree.label_map, Tree.children_map, List.forall_mem_map]
    refine ⟨hkept.controlFlow_iff, fun c hc => ?_⟩
    rw [Tree.label_map]
    exact hkept.name_mem c hc
  · rw [forget, Tree.descendants_map] at hd
    obtain ⟨e, he, rfl⟩ := List.mem_map.1 hd
    rw [Tree.label_map]
    exact (everywhere_run v steps t ht s hs).kind_ne kind hkind e he
  · have hrun : (fun step => (noting v).run (steps ++ [step])) =
        (noting v).perform ((noting v).run steps) := by
      funext step
      rw [Handling.run, List.foldl_append]
      rfl
    rw [hrun]
    exact goesOn_perform v _

end DeclSplit.Ir.History
