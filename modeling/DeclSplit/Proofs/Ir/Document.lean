import DeclSplit.Ir.Workspace
import DeclSplit.Proofs.Json.RoundTrip
import DeclSplit.Proofs.NameSet
import DeclSplit.Proofs.Tree.Growth
import DeclSplit.Proofs.Tree.Relabelling
import DeclSplit.Proofs.Tree.Subtrees

/-!
# Reading back documents

The loop that writes the object of a tree is the one that copies the tree, seen through the objects of
trees; so what is written can be said by recursion.  A tree is read back from its object, node by node.

* `Ir.document` — the object of a tree by recursion;
* `Ir.toJson_eq_document` — the loop writes it;
* `Ir.isPlain_toJson` — the object of a tree of texts is one whose text is read back;
* `Ir.HasNames` — the trees whose dependencies are all names of some sort;
* `Ir.ofJson_toJson_id` — a tree is read back from its object if its dependencies are names;
* `Workspace.toJson_ofTexts`, `Workspace.ofTexts_injective` — a tree of texts has the same object when its
  texts are taken for values, and nothing of it is lost;
* `Ir.ofJson_toJson`, `Ir.toJson_str_injective` — a tree of texts is read back from its object, which is
  that of no other tree.
-/

namespace DeclSplit

/-- A text. -/
def Json.IsText (v : Json) : Prop :=
  ∃ s, v = .str s

theorem Json.IsText.isScalar {v : Json} (h : v.IsText) : v.isScalar = true := by
  obtain ⟨s, rfl⟩ := h
  rfl

namespace Ir

/-! ### Writing node by node -/

section Writing

variable {κ : Type} [Ord κ] (value : κ → Json)

/-- The object of a tree by recursion. -/
def document (t : Ir κ) : Json :=
  t.fold (nodeToJson value)

theorem document_node (label : Label κ) (ts : List (Ir κ)) :
    document value (.node label ts) = nodeToJson value label (ts.map (document value)) := by
  rw [document, Tree.fold_node]
  rfl

@[simp] theorem childDocuments_document (t : Ir κ) :
    childDocuments (document value t) = t.children.map (document value) := by
  obtain ⟨label, ts⟩ := t
  rw [document_node]
  rfl

theorem modifyChildren_nodeToJson (f : List Json → List Json) (label : Label κ)
    (children : List Json) :
    modifyChildren f (nodeToJson value label children) = nodeToJson value label (f children) := by
  simp [modifyChildren, nodeToJson]

theorem documentAt?_document (t : Ir κ) (position : List Nat) :
    documentAt? (document value t) position = (t.at? position).map (document value) := by
  induction position generalizing t with
  | nil => rfl
  | cons i position ih =>
    rw [documentAt?, childDocuments_document, List.getElem?_map, Tree.at?]
    cases t.children[i]? with
    | none => rfl
    | some child => exact ih child

/-- A change of the object of a node that is one of the node changes the object of the tree as the
change of the node does. -/
theorem modifyDocumentAt_document {f : Json → Json} {g : Ir κ → Ir κ}
    (h : ∀ t, f (document value t) = document value (g t)) (t : Ir κ) (position : List Nat) :
    modifyDocumentAt f position (document value t) = document value (t.modifyAt g position) := by
  induction position generalizing t with
  | nil => exact h t
  | cons i position ih =>
    obtain ⟨label, ts⟩ := t
    rw [modifyDocumentAt, Tree.modifyAt, document_node, document_node, modifyChildren_nodeToJson,
      Tree.map_modify fun t => (ih t).symm]

theorem writeChildren_document (t copy : Ir κ) :
    writeChildren value t (document value copy) = document value (Tree.copyChildren t copy) := by
  obtain ⟨label, ts⟩ := copy
  rw [writeChildren, Tree.copyChildren, document_node, document_node, modifyChildren_nodeToJson,
    List.map_append, List.map_map]
  rfl

/-- A step of the writer is a step of the copy, seen through the objects of trees. -/
theorem toJsonStack_document (copy : Ir κ) (stack : List (List Nat × Ir κ)) :
    toJsonStack value (document value copy) stack = document value (Tree.cloneStack copy stack) := by
  fun_induction Tree.cloneStack copy stack with
  | case1 copy => rw [toJsonStack]
  | case2 copy position t rest first ih =>
    -- the writer counts the objects of the children, where the copy counts the children
    have hfirst : ((documentAt? (document value copy) position).map fun d =>
        (childDocuments d).length).getD 0 = first := by
      rw [documentAt?_document, Option.map_map]
      simp only [Function.comp_def, childDocuments_document, List.length_map]
      rfl
    rw [toJsonStack, hfirst, modifyDocumentAt_document value (writeChildren_document value t), ih]

/-- The loop writes the object of the tree. -/
theorem toJson_eq_document (t : Ir κ) : toJson value t = document value t := by
  have hstart : nodeToJson value t.label [] = document value (.node t.label []) := by
    rw [document_node]
    rfl
  rw [toJson, hstart, toJsonStack_document]
  exact congrArg (document value) (Tree.clone_eq_self t)

/-- One level of the object of a tree. -/
theorem toJson_node (label : Label κ) (ts : List (Ir κ)) :
    toJson value (.node label ts) = nodeToJson value label (ts.map (toJson value)) := by
  rw [toJson_eq_document, document_node]
  exact congrArg (nodeToJson value label)
    (List.map_congr_left fun t _ => (toJson_eq_document value t).symm)

end Writing

/-! ### The object of a node -/

/-- What the object of a node has under `control_flow`. -/
def markToJson (mark : Option ControlFlow) : Json :=
  match mark with
  | some mark => .str mark.word
  | none => .null

/-- The members of the object of a node. -/
def membersOf {κ : Type} [Ord κ] (value : κ → Json) (label : Label κ) (children : List Json) :
    List (String × Json) :=
  [("node_type", value label.kind), ("name", value label.name), ("children", .arr children),
   ("control_flow", markToJson label.controlFlow),
   ("dependencies", .arr (label.dependencies.toList.map value))]

theorem nodeToJson_eq {κ : Type} [Ord κ] (value : κ → Json) (label : Label κ)
    (children : List Json) :
    nodeToJson value label children = .obj (membersOf value label children) := rfl

theorem isPlain_markToJson (mark : Option ControlFlow) : (markToJson mark).IsPlain := by
  cases mark <;> trivial

/-- The object of a tree of texts is one whose text is read back. -/
theorem isPlain_toJson (t : Ir String) : (t.toJson Json.str).IsPlain := by
  induction t using Tree.induction with
  | node label ts ih =>
    have hchildren : Json.ItemsPlain (ts.map (toJson Json.str)) := by
      rw [Json.itemsPlain_iff, List.forall_mem_map]
      exact ih
    have hdependencies : Json.ItemsPlain (label.dependencies.toList.map Json.str) := by
      rw [Json.itemsPlain_iff, List.forall_mem_map]
      intro name _
      trivial
    have hnames : ["node_type", "name", "children", "control_flow", "dependencies"].Nodup := by
      decide
    rw [toJson_node, nodeToJson_eq, Json.IsPlain]
    exact ⟨hnames, trivial, trivial, hchildren, isPlain_markToJson label.controlFlow, hdependencies,
      trivial⟩

/-! ### Reading back -/

/-- All that the nodes of a tree depend on is a name. -/
def HasNames (isName : Json → Prop) (t : Ir Json) : Prop :=
  t.Everywhere fun s => ∀ n ∈ s.label.dependencies, isName n

theorem HasNames.imp {isName isName' : Json → Prop} (h : ∀ n, isName n → isName' n) {t : Ir Json}
    (ht : t.HasNames isName) : t.HasNames isName' :=
  fun s hs n hn => h n (ht s hs n hn)

theorem hasNames_node_iff {isName : Json → Prop} {label : Label Json} {ts : List (Ir Json)} :
    HasNames isName (.node label ts) ↔
      (∀ n ∈ label.dependencies, isName n) ∧ ∀ t ∈ ts, t.HasNames isName :=
  Tree.everywhere_iff

theorem readControlFlow_membersOf (label : Label Json) (children : List Json) :
    readControlFlow (membersOf id label children) = .ok label.controlFlow := by
  obtain ⟨kind, name, controlFlow, dependencies⟩ := label
  rcases controlFlow with _ | ⟨⟨⟩⟩ <;> rfl

theorem readDependencies_membersOf {label : Label Json} (children : List Json)
    (h : ∀ n ∈ label.dependencies, n.isScalar = true) :
    readDependencies (membersOf id label children) = .ok label.dependencies := by
  show (if (label.dependencies.toList.map id).all Json.isScalar then _ else _) = _
  rw [List.map_id, if_pos (List.all_eq_true.2 h)]
  exact congrArg Except.ok (NameSet.ext_toList (NameSet.toList_ofList label.dependencies.ascending))

theorem ofItems_map {levels : Nat} {ts : List (Ir Json)}
    (h : ∀ t ∈ ts, ofJson levels (t.toJson id) = .ok t) :
    ofItems levels (ts.map (toJson id)) = .ok ts := by
  induction ts with
  | nil => rfl
  | cons t ts ih =>
    rw [List.map_cons, ofItems, h t List.mem_cons_self,
      ih fun u hu => h u (List.mem_cons_of_mem t hu)]
    rfl

/-- A tree is read back from its object if its dependencies are names and it is not too deep to be read. -/
theorem ofJson_toJson_id {levels : Nat} {t : Ir Json} (h : t.HasNames fun n => n.isScalar = true)
    (hdepth : t.depth ≤ levels) : ofJson levels (t.toJson id) = .ok t := by
  induction t using Tree.induction generalizing levels with
  | node label ts ih =>
    cases levels with
    | zero => exact absurd hdepth (Nat.not_le_of_lt (Tree.depth_pos _))
    | succ levels =>
      obtain ⟨hnames, hchildren⟩ := hasNames_node_iff.1 h
      have hbelow := (Tree.depth_le_iff label ts).1 hdepth
      have hkind : (membersOf id label (ts.map (toJson id))).lookup "node_type" = some label.kind :=
        rfl
      have hlist : childrenOfMembers levels (membersOf id label (ts.map (toJson id))) = .ok ts :=
        ofItems_map fun t ht => ih t ht (hchildren t ht) (hbelow t ht)
      rw [toJson_node, nodeToJson_eq, ofJson, hkind]
      dsimp only
      rw [hlist, readControlFlow_membersOf, readDependencies_membersOf _ hnames]
      rfl

end Ir

/-! ### Texts as values -/

namespace Workspace

theorem compare_str (a b : String) : compare (Json.str a) (Json.str b) = compare a b := rfl

/-- A tree of texts has the same object when its texts are taken for values. -/
theorem toJson_ofTexts (t : Ir String) : (ofTexts t).toJson id = t.toJson Json.str := by
  induction t using Tree.induction with
  | node label ts ih =>
    have hnames : ((label.dependencies.map Json.str).toList.map id) =
        label.dependencies.toList.map Json.str := by
      rw [List.map_id, NameSet.toList_map compare_str]
    rw [ofTexts, Tree.map_node, Ir.toJson_node, Ir.toJson_node, List.map_map, Ir.nodeToJson_eq,
      Ir.nodeToJson_eq, Ir.membersOf, hnames]
    exact congrArg (fun children => Json.obj (Ir.membersOf Json.str label children))
      (List.map_congr_left ih)

theorem hasNames_ofTexts (t : Ir String) : (ofTexts t).HasNames Json.IsText := by
  induction t using Tree.induction with
  | node label ts ih =>
    rw [ofTexts, Tree.map_node, Ir.hasNames_node_iff, List.forall_mem_map]
    refine ⟨fun n hn => ?_, ih⟩
    obtain ⟨s, -, rfl⟩ : ∃ s ∈ label.dependencies.toList, Json.str s = n := by
      rw [← List.mem_map, ← NameSet.toList_map compare_str]
      exact hn
    exact ⟨s, rfl⟩

/-- Nothing of a tree is lost when its texts are taken for values. -/
theorem ofTexts_injective : Function.Injective ofTexts := by
  refine Tree.map_injective ?_
  intro l m h
  have hkind : l.kind = m.kind := Json.str.inj (congrArg Ir.Label.kind h)
  have hname : l.name = m.name := Json.str.inj (congrArg Ir.Label.name h)
  have hcontrolFlow : l.controlFlow = m.controlFlow :=
    congrArg (fun label : Ir.Label Json => label.controlFlow) h
  have hlists : (l.dependencies.map Json.str).toList = (m.dependencies.map Json.str).toList :=
    congrArg (fun label : Ir.Label Json => label.dependencies.toList) h
  rw [NameSet.toList_map compare_str, NameSet.toList_map compare_str] at hlists
  have hdependencies : l.dependencies = m.dependencies :=
    NameSet.ext_toList ((List.map_inj_right fun _ _ => Json.str.inj).1 hlists)
  cases l
  cases m
  rw [Ir.Label.mk.injEq]
  exact ⟨hkind, hname, hcontrolFlow, hdependencies⟩

end Workspace

@[simp] theorem Workspace.depth_ofTexts (t : Ir String) : (ofTexts t).depth = t.depth :=
  Tree.depth_map _ t

/-- A tree of texts is read back from its object if it is not too deep to be read. -/
theorem Ir.ofJson_toJson {levels : Nat} {t : Ir String} (hdepth : t.depth ≤ levels) :
    ofJson levels (t.toJson Json.str) = .ok (Workspace.ofTexts t) := by
  rw [← Workspace.toJson_ofTexts]
  refine ofJson_toJson_id ((Workspace.hasNames_ofTexts t).imp fun _ hn => hn.isScalar) ?_
  rw [Workspace.depth_ofTexts]
  exact hdepth

/-- No two trees of texts have the same object. -/
theorem Ir.toJson_str_injective : Function.Injective (toJson Json.str) := by
  intro t u h
  have ht := ofJson_toJson (Nat.le_max_left t.depth u.depth)
  rw [h, ofJson_toJson (Nat.le_max_right t.depth u.depth)] at ht
  exact Workspace.ofTexts_injective (Except.ok.inj ht).symm

end DeclSplit
