import DeclSplit.Proofs.Attempts
import DeclSplit.Yaml.Graph.Value

/-!
# Faults of values

While the values of a document are found, merge keys are taken out of its mappings.  A node keeps its kind
and its text meanwhile, so what is wrong is wrong with a node as it was read.

* `Yaml.Fault.IsFound` — the faults of the values of a document, each with the node that has it;
* `Yaml.Node.IsVersion` — what a node can become while the values are found;
* `Yaml.Graph.value_failsWith` — there are no other faults.
-/

namespace DeclSplit.Yaml

namespace Graph

/-- The node of a number; where there is none, an empty scalar. -/
def node (g : Graph) (id : Nat) : Node :=
  g.nodes[id]?.getD default

/-- The text of a scalar is its own, and a mapping can stand for one. -/
inductive HasText (g : Graph) (node : Node) (text : List Char) : Prop
  | own (h : node.content = .scalar text)
  | standIn {entries : List (Nat × Nat)} (h : node.content = .mapping entries) {id : Nat}
      (hid : (g.node id).content = .scalar text)

theorem mem_nodes_of_tag_ne {g : Graph} {id : Nat} (h : (g.node id).tag ≠ .null) :
    g.node id ∈ g.nodes := by
  rw [node] at h ⊢
  cases hid : g.nodes[id]? with
  | none => rw [hid] at h; exact absurd rfl h
  | some n => exact Array.mem_of_getElem? hid

theorem HasText.exists {g : Graph} {id : Nat} {text : List Char} (h : g.HasText (g.node id) text) :
    ∃ id, (g.node id).content = .scalar text := by
  cases h with
  | own h => exact ⟨id, h⟩
  | standIn h hid => exact ⟨_, hid⟩

end Graph

/-- The faults of the values of a document, with at most so many mappings that stand for a scalar. -/
inductive Fault.IsFound (standIns : Nat) (g : Graph) : Fault → Prop
  /-- The nodes do not fit together. -/
  | malformed : IsFound standIns g .malformed
  /-- Too many mappings stand for one scalar; if any may, one of them has a key for its value. -/
  | tooDeep (h : standIns = 0 ∨ ∃ node ∈ g.nodes, node.tag = .value) : IsFound standIns g .tooDeep
  /-- A mapping is marked as a date. -/
  | notAText {node : Node} {entries : List (Nat × Nat)} (hnode : node ∈ g.nodes)
      (htag : node.tag = .timestamp) (hcontent : node.content = .mapping entries) :
      IsFound standIns g .notAText
  /-- A scalar, or what a mapping stands for, has no value. -/
  | refused {node : Node} {text : List Char} {fault : Fault} (hnode : node ∈ g.nodes)
      (htext : g.HasText node text) (hvalue : scalarValue node.tag text = .error fault) :
      IsFound standIns g fault

/-! ### What becomes of nodes -/

/-- What a node can hold later on: what it held, or other entries if it is a mapping. -/
inductive Content.IsVersion : Content → Content → Prop
  | same (content : Content) : IsVersion content content
  | mapping (entries entries' : List (Nat × Nat)) : IsVersion (.mapping entries) (.mapping entries')

/-- What a node can become. -/
structure Node.IsVersion (old new : Node) : Prop where
  tag_eq : new.tag = old.tag ∨ new.tag = .str
  content : old.content.IsVersion new.content

namespace Node.IsVersion

variable {old new : Node}

theorem refl (node : Node) : node.IsVersion node :=
  ⟨.inl rfl, .same _⟩

theorem scalar (h : old.IsVersion new) {text : List Char} (hnew : new.content = .scalar text) :
    old.content = .scalar text := by
  have hcontent := h.content
  rw [hnew] at hcontent
  generalize hold : old.content = content at hcontent
  cases hcontent with
  | same => exact rfl

theorem mapping (h : old.IsVersion new) {entries : List (Nat × Nat)}
    (hnew : new.content = .mapping entries) : ∃ entries, old.content = .mapping entries := by
  have hcontent := h.content
  rw [hnew] at hcontent
  generalize hold : old.content = content at hcontent
  cases hcontent with
  | same => exact ⟨_, rfl⟩
  | mapping entries => exact ⟨entries, rfl⟩

end Node.IsVersion

/-- The nodes are what those of the document can become. -/
def Graph.HasVersions (g : Graph) (nodes : Array Node) : Prop :=
  ∀ id, (g.node id).IsVersion (nodes[id]?.getD default)

theorem Graph.HasVersions.modify {g : Graph} {nodes : Array Node} {id : Nat} {change : Node → Node}
    (h : g.HasVersions nodes)
    (hchange : ∀ n, (g.node id).IsVersion n → (g.node id).IsVersion (change n)) :
    g.HasVersions (nodes.modify id change) := by
  intro j
  have hj := h j
  rw [Array.getElem?_modify]
  split
  next hij =>
    subst hij
    cases hn : nodes[id]? with
    | none => rw [hn] at hj; exact hj
    | some n => rw [hn] at hj; exact hchange n hj
  next => exact hj

variable {standIns : Nat} {g : Graph} {α β : Type}

/-! ### Merged mappings -/

namespace NodesM

/-- A part of the work on nodes, with no faults but those of the document. -/
abbrev Works (standIns : Nat) (g : Graph) (m : NodesM α) : Prop :=
  Keeps (Fault.IsFound standIns g) g.HasVersions m

theorem works_malformed : Works standIns g (throw .malformed : NodesM α) :=
  .throw fun _ _ => .malformed

theorem leads_node (id : Nat) :
    Leads (Fault.IsFound standIns g) g.HasVersions
      (fun n nodes => (g.node id).IsVersion n ∧ g.HasVersions nodes) (node id) :=
  fun _ hnodes => ⟨hnodes id, hnodes⟩

theorem works_node (id : Nat) : Works standIns g (node id) :=
  (leads_node id).mono (fun _ h => h) fun _ _ h => h.2

theorem works_entries (id : Nat) : Works standIns g (entries id) := by
  refine (works_node id).bind fun _ => ?_
  split
  next => exact Keeps.pure _
  next => exact Keeps.pure _

theorem works_setEntries {id : Nat} {old : List (Nat × Nat)} (hid : (g.node id).content = .mapping old)
    (entries : List (Nat × Nat)) : Works standIns g (setEntries id entries) :=
  .modify fun _ hnodes => hnodes.modify fun _ hn => ⟨hn.tag_eq, hid ▸ .mapping old entries⟩

theorem works_keepValueKey (key : Nat) : Works standIns g (keepValueKey key) := by
  refine .modify fun _ hnodes => hnodes.modify fun n hn => ?_
  split
  next => exact ⟨.inr rfl, hn.content⟩
  next => exact hn

theorem works_splitMerge (entries : List (Nat × Nat)) : Works standIns g (splitMerge entries) := by
  induction entries with
  | nil => exact Keeps.pure _
  | cons entry rest ih =>
    rw [splitMerge]
    exact (works_node _).bind fun _ => .ite (Keeps.pure _) (ih.bind fun _ => Keeps.pure _)

/-- A part of the work that is done on mappings only. -/
abbrev WorksOnMappings (standIns : Nat) (g : Graph) (m : Nat → NodesM α) : Prop :=
  ∀ {id : Nat} {entries : List (Nat × Nat)}, (g.node id).content = .mapping entries →
    Works standIns g (m id)

theorem works_mergedEntries {flatten : Nat → NodesM Unit} (h : WorksOnMappings standIns g flatten)
    (value : Nat) : Works standIns g (mergedEntries flatten value) := by
  refine (leads_node value).bind fun n => .given fun hn => ?_
  split
  next hcontent =>
    obtain ⟨_, hvalue⟩ := hn.mapping hcontent
    exact (h hvalue).bind fun _ => works_entries value
  next =>
    refine Keeps.mapM (fun item => ?_) _ |>.bind fun _ => Keeps.pure _
    refine (leads_node item).bind fun n => .given fun hn => ?_
    split
    next hcontent =>
      obtain ⟨_, hitem⟩ := hn.mapping hcontent
      exact (h hitem).bind fun _ => works_entries item
    next => exact works_malformed
  next => exact works_malformed

theorem works_flattenWith (merged : List (Nat × Nat)) (steps : Nat) :
    WorksOnMappings standIns g (flattenWith merged steps) := by
  induction steps generalizing merged with
  | zero => exact fun _ => works_malformed
  | succ steps ih =>
    intro id _ hid
    rw [flattenWith]
    refine (works_entries id).bind fun _ => (works_splitMerge _).bind fun _ => ?_
    split
    next =>
      exact (works_entries id).bind fun own =>
        (Keeps.forM (fun entry => works_keepValueKey entry.1) own).bind fun _ => works_setEntries hid _
    next =>
      exact (works_setEntries hid _).bind fun _ =>
        (works_mergedEntries (ih []) _).bind fun _ => ih _ hid

theorem works_flatten : WorksOnMappings standIns g flatten :=
  fun hid => Keeps.of_get.bind fun _ => works_flattenWith [] _ hid

end NodesM

/-! ### Values -/

namespace CheckM

/-- A part of the checking that gives values with a property, and has no faults but those of the
document. -/
def Checks (standIns : Nat) (g : Graph) (Q : α → Prop) (m : CheckM α) : Prop :=
  ∀ c, Leads (Fault.IsFound standIns g) g.HasVersions (fun r nodes => Q r.1 ∧ g.HasVersions nodes) (m c)

/-- A part of the checking of whose value nothing is known. -/
abbrev Passes (standIns : Nat) (g : Graph) (m : CheckM α) : Prop :=
  Checks standIns g (fun _ => True) m

namespace Checks

variable {Q : α → Prop} {R : β → Prop} {m m' : CheckM α}

theorem pure {a : α} (h : Q a) : Checks standIns g Q (Pure.pure a : CheckM α) :=
  fun _ => .pure fun _ hnodes => ⟨h, hnodes⟩

theorem throw {f : Fault} (h : Fault.IsFound standIns g f) :
    Checks standIns g Q (MonadExcept.throw f : CheckM α) :=
  fun _ => .throw fun _ _ => h

theorem bind {f : α → CheckM β} (hm : Checks standIns g Q m)
    (hf : ∀ a, Q a → Checks standIns g R (f a)) : Checks standIns g R (m >>= f) :=
  fun c => (hm c).bind fun r => .given fun hr => hf r.1 hr r.2

theorem mono {Q' : α → Prop} (hm : Checks standIns g Q m) (h : ∀ a, Q a → Q' a) :
    Checks standIns g Q' m :=
  fun c => (hm c).mono (fun _ => id) fun r _ hr => ⟨h r.1 hr.1, hr.2⟩

theorem ite {c : Prop} [Decidable c] (hm : Checks standIns g Q m) (hm' : Checks standIns g Q m') :
    Checks standIns g Q (if c then m else m') := by
  split
  next => exact hm
  next => exact hm'

theorem lift {m : NodesM α} (h : Leads (Fault.IsFound standIns g) g.HasVersions
    (fun a nodes => Q a ∧ g.HasVersions nodes) m) : Checks standIns g Q (m : CheckM α) := by
  intro c
  show Leads _ _ _ (m >>= fun a => Pure.pure (a, c))
  exact h.bind fun a => .pure fun _ => id

theorem lift_works {m : NodesM α} (h : NodesM.Works standIns g m) :
    Passes standIns g (m : CheckM α) :=
  lift (h.mono (fun _ => id) fun _ _ hnodes => ⟨trivial, hnodes⟩)

theorem of_get : Passes standIns g (get : CheckM Checked) :=
  fun _ => .pure fun _ hnodes => ⟨trivial, hnodes⟩

theorem of_modify (change : Checked → Checked) : Passes standIns g (modify change : CheckM Unit) :=
  fun _ => .pure fun _ hnodes => ⟨trivial, hnodes⟩

theorem forM {f : β → CheckM Unit} (h : ∀ item, Passes standIns g (f item)) (items : List β) :
    Passes standIns g (items.forM f) := by
  induction items with
  | nil => exact pure trivial
  | cons item items ih => exact (h item).bind fun _ _ => ih

/-- If what is kept of a list meets a test, the test is met by something. -/
theorem filterM {p : β → CheckM Bool} {met : Prop}
    (h : ∀ item, Checks standIns g (fun b => b = true → met) (p item)) (items : List β) :
    Checks standIns g (fun kept => kept ≠ [] → met) (items.filterM p) := by
  have hgo : ∀ kept, (kept ≠ [] → met) →
      Checks standIns g (fun kept => kept ≠ [] → met) (items.filterAuxM p kept) := by
    induction items with
    | nil => exact fun kept hkept => pure hkept
    | cons item items ih =>
      intro kept hkept
      refine (h item).bind fun b hb => ih _ fun hne => ?_
      cases b with
      | false => exact hkept hne
      | true => exact hb rfl
  exact (hgo [] fun hne => absurd rfl hne).bind fun kept hkept =>
    pure fun hne => hkept fun hnil => hne (by rw [hnil, List.reverse_nil])

end Checks

theorem checks_node (id : Nat) : Checks standIns g (g.node id).IsVersion (node id) :=
  .lift (NodesM.leads_node id)

theorem checks_malformed {Q : α → Prop} : Checks standIns g Q (throw .malformed : CheckM α) :=
  .throw .malformed

/-- Whether a key is for the value of a mapping. -/
theorem checks_isValueKey (key : Nat) :
    Checks standIns g (fun b => b = true → ∃ node ∈ g.nodes, node.tag = .value)
      (do return (← node key).tag = .value) := by
  refine (checks_node key).bind fun n hn => .pure fun hvalue => ?_
  have htag : (g.node key).tag = .value := by
    rcases hn.tag_eq with htag | htag
    · rw [← htag]; exact of_decide_eq_true hvalue
    · rw [of_decide_eq_true hvalue] at htag; exact nomatch htag
  exact ⟨g.node key, Graph.mem_nodes_of_tag_ne (by rw [htag]; exact nofun), htag⟩

theorem checks_scalarText (steps id : Nat)
    (hsteps : steps = 0 → standIns = 0 ∨ ∃ node ∈ g.nodes, node.tag = .value) :
    Checks standIns g (g.HasText (g.node id)) (scalarText steps id) := by
  induction steps generalizing id with
  | zero => exact .throw (.tooDeep (hsteps rfl))
  | succ steps ih =>
    rw [scalarText]
    refine (checks_node id).bind fun n hn => ?_
    split
    next hcontent => exact .pure (.own (hn.scalar hcontent))
    next => exact checks_malformed
    next hcontent =>
      obtain ⟨_, hid⟩ := hn.mapping hcontent
      have hmarks : ∀ entry : Nat × Nat,
          Checks standIns g (fun b => b = true → ∃ node ∈ g.nodes, node.tag = .value)
            (do return (← node entry.1).tag = .value) :=
        fun entry => checks_isValueKey entry.1
      refine (Checks.filterM hmarks _).bind fun marked hmarked => ?_
      split
      next =>
        have hvalue := hmarked (List.cons_ne_nil _ _)
        refine (ih _ fun _ => .inr hvalue).mono fun text htext => ?_
        obtain ⟨_, htext⟩ := htext.exists
        exact .standIn hid htext
      next => exact checks_malformed

/-- A text without a value is a fault of its node: its tag is neither null nor that of texts. -/
theorem checks_scalarValue {id : Nat} {tag : Tag} {text : List Char}
    (htag : tag = (g.node id).tag ∨ tag = .str) (htext : g.HasText (g.node id) text) :
    Passes standIns g (scalarValue tag text : CheckM Value) := by
  intro c nodes hnodes
  cases hvalue : scalarValue tag text with
  | ok value => exact ⟨trivial, hnodes⟩
  | error fault =>
    rcases htag with rfl | rfl
    · have hne : (g.node id).tag ≠ .null := by
        intro hnull
        rw [hnull] at hvalue
        exact nomatch hvalue
      exact Fault.IsFound.refused (Graph.mem_nodes_of_tag_ne hne) htext hvalue
    · exact nomatch hvalue

theorem checks_scalar {id : Nat} {tag : Tag} (htag : tag = (g.node id).tag ∨ tag = .str) :
    Passes standIns g (scalar standIns id tag) := by
  refine (checks_scalarText standIns id .inl).bind fun text htext =>
    (checks_node id).bind fun n hn => ?_
  split
  next hcontent =>
    obtain ⟨_, hid⟩ := hn.mapping hcontent
    have hdate : (g.node id).tag = .timestamp := htag.elim Eq.symm nofun
    exact .throw (.notAText (Graph.mem_nodes_of_tag_ne (by rw [hdate]; exact nofun)) hdate hid)
  next => exact checks_scalarValue htag htext

theorem checks_meet (id : Nat) : Passes standIns g (meet standIns id) := by
  refine Checks.of_get.bind fun _ _ => .ite (.pure trivial) ((checks_node id).bind fun n hn => ?_)
  exact .ite (.of_modify _) ((checks_scalar hn.tag_eq).bind fun _ _ => .of_modify _)

theorem checks_meetEntry (entry : Nat × Nat) : Passes standIns g (meetEntry standIns entry) := by
  refine (checks_meet _).bind fun _ _ => (checks_node _).bind fun _ _ => ?_
  have hcollection : Passes standIns g (throw .malformed : CheckM Unit) := checks_malformed
  exact .ite (hcollection.bind fun _ _ => checks_meet _) (checks_meet _)

theorem checks_meetPair (item : Nat) : Passes standIns g (meetPair standIns item) := by
  refine (checks_node item).bind fun _ _ => ?_
  split
  next => exact (checks_meet _).bind fun _ _ => checks_meet _
  next => exact checks_malformed

theorem checks_meetMembers (id : Nat) : Passes standIns g (meetMembers standIns id) := by
  have hfields {entries : List (Nat × Nat)} (hid : (g.node id).content = .mapping entries) :
      Passes standIns g (do
        NodesM.flatten id
        (← NodesM.entries id).forM (meetEntry standIns) : CheckM Unit) :=
    (Checks.lift_works (NodesM.works_flatten hid)).bind fun _ _ =>
      (Checks.lift_works (NodesM.works_entries id)).bind fun _ _ => .forM checks_meetEntry _
  refine (checks_node id).bind fun n hn => ?_
  split
  next => exact .forM checks_meet _
  next => exact .forM checks_meetPair _
  next => exact .forM checks_meetPair _
  next hcontent => exact (hn.mapping hcontent).elim fun _ hid => hfields hid
  next hcontent => exact (hn.mapping hcontent).elim fun _ hid => hfields hid
  next => exact checks_malformed

theorem checks_meetAll (steps : Nat) : Passes standIns g (meetAll standIns steps) := by
  induction steps with
  | zero => exact .pure trivial
  | succ steps ih =>
    rw [meetAll]
    refine Checks.of_get.bind fun _ _ => ?_
    split
    next => exact .pure trivial
    next =>
      exact (Checks.of_modify _).bind fun _ _ => (checks_meetMembers _).bind fun _ _ => ih

end CheckM

/-- The value of a node graph has no faults but those of its nodes. -/
theorem Graph.value_failsWith (standIns depth : Nat) (g : Graph) :
    FailsWith (Fault.IsFound standIns g) (g.value standIns depth) := by
  have hcheck : CheckM.Passes standIns g (do
      CheckM.meet standIns g.root
      CheckM.meetAll standIns (g.nodes.size + 1)) :=
    (CheckM.checks_meet g.root).bind fun _ _ => CheckM.checks_meetAll _
  have hstart : g.HasVersions g.nodes := fun id => .refl (g.node id)
  exact (hcheck _ g.nodes hstart).bind fun _ _ => trivial

end DeclSplit.Yaml
