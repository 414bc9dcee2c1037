import DeclSplit.Proofs.Attempts
import DeclSplit.Yaml.Graph.Read

/-!
# Faults of reading tokens

A node is read with a bound on the collections that may still be in one another.  The bound gets smaller
only at a token that opens a collection, so if it is used up there are as many of those.

* `Yaml.Fault.IsRead` — the faults of reading tokens, each with where it comes from;
* `Yaml.Read.Fits` — the tokens that are left and the bound on the collections in one another;
* `Yaml.Read.readsNodes` — the readers of nodes have no other faults;
* `Yaml.ofTokens_failsWith` — nor has the reading of a document.
-/

namespace DeclSplit.Yaml

/-- Whether the members of a collection can begin after a token: one that stands for the start of a
collection, the sign of an entry of a sequence in the lines of a mapping, or that of a key between
brackets. -/
def Token.opens : Token → Bool
  | .blockSequenceStart | .blockMappingStart | .flowSequenceStart | .flowMappingStart => true
  | .blockEntry | .key => true
  | _ => false

/-- The faults of reading tokens with at most so many collections in one another. -/
inductive Fault.IsRead (limit : Nat) (tokens : List Token) : Fault → Prop
  /-- The nodes do not fit together. -/
  | malformed : IsRead limit tokens .malformed
  /-- The tokens end in a fault. -/
  | token {fault : Fault} (h : .fault fault ∈ tokens) : IsRead limit tokens fault
  /-- As many collections are opened as there may be in one another. -/
  | tooDeep (h : limit ≤ tokens.countP Token.opens) : IsRead limit tokens .tooDeep

namespace Read

variable {limit : Nat} {all : List Token}

/-! ### The bound on collections -/

/-- Tokens that are left when there may be at most so many more collections in one another. -/
structure Fits (limit : Nat) (all : List Token) (levels : Nat) (tokens : List Token) : Prop where
  suffix : tokens <:+ all
  le : limit + tokens.countP Token.opens ≤ all.countP Token.opens + levels

/-- Tokens that fit when the next one is read. -/
structure FitsNext (limit : Nat) (all : List Token) (levels : Nat) (tokens : List Token) : Prop where
  suffix : tokens <:+ all
  tail : Fits limit all levels tokens.tail

namespace Fits

variable {levels : Nat} {tokens : List Token}

theorem start (limit : Nat) (tokens : List Token) : Fits limit tokens limit tokens :=
  ⟨List.suffix_rfl, Nat.le_of_eq (Nat.add_comm ..)⟩

theorem of_suffix {rest : List Token} (h : Fits limit all levels tokens) (hrest : rest <:+ tokens) :
    Fits limit all levels rest :=
  ⟨hrest.trans h.suffix,
    Nat.le_trans (Nat.add_le_add_left (hrest.sublist.countP_le) limit) h.le⟩

theorem tail (h : Fits limit all levels tokens) : Fits limit all levels tokens.tail :=
  h.of_suffix (List.tail_suffix tokens)

theorem next (h : Fits limit all levels tokens) : FitsNext limit all levels tokens :=
  ⟨h.suffix, h.tail⟩

theorem mono {levels' : Nat} (h : Fits limit all levels tokens) (hlevels : levels ≤ levels') :
    Fits limit all levels' tokens :=
  ⟨h.suffix, Nat.le_trans h.le (Nat.add_le_add_left hlevels _)⟩

/-- The bound is smaller after a token that opens a collection. -/
theorem opened {t : Token} (h : Fits limit all levels tokens) (ht : tokens.head? = some t)
    (hopens : t.opens = true) : Fits limit all (levels - 1) tokens.tail := by
  obtain ⟨rest, rfl⟩ := List.head?_eq_some_iff.1 ht
  have hle := h.le
  rw [List.countP_cons, if_pos hopens] at hle
  exact ⟨h.tail.suffix, by rw [List.tail_cons]; omega⟩

end Fits

theorem FitsNext.fits {levels : Nat} {tokens : List Token} (h : FitsNext limit all levels tokens) :
    Fits limit all (levels + 1) tokens := by
  have htail := h.tail.le
  refine ⟨h.suffix, ?_⟩
  cases tokens with
  | nil => exact Nat.le_succ_of_le htail
  | cons t rest =>
    have hcons : (t :: rest).countP Token.opens ≤ rest.countP Token.opens + 1 := by
      rw [List.countP_cons]
      split <;> omega
    rw [List.tail_cons] at htail
    omega

/-! ### Parts of the reading -/

/-- A part of the reading that leads from tokens with one property to tokens with another, and has no
faults but those of reading. -/
abbrev Reads {α : Type} (limit : Nat) (all : List Token) (T U : List Token → Prop) (m : Read α) : Prop :=
  Leads (Fault.IsRead limit all) (fun r => T r.tokens) (fun _ r => U r.tokens) m

variable {α β : Type} {T U V : List Token → Prop}

theorem reads_malformed : Reads limit all T U (throw .malformed : Read α) :=
  .throw fun _ _ => .malformed

theorem reads_pure (a : α) : Reads limit all T T (pure a) :=
  .pure fun _ => id

/-- The next token is known after it was looked at. -/
theorem leads_peek (hT : ∀ tokens, T tokens → tokens <:+ all) :
    Leads (Fault.IsRead limit all) (fun r => T r.tokens)
      (fun t r => T r.tokens ∧ r.tokens.head? = some t) peek := by
  rintro ⟨tokens, nodes, anchors, handles⟩ hr
  cases tokens with
  | nil => exact Fault.IsRead.malformed
  | cons t rest =>
    cases t with
    | fault f => exact .token ((hT _ hr).mem List.mem_cons_self)
    | _ => exact ⟨hr, rfl⟩

theorem reads_peek (hT : ∀ tokens, T tokens → tokens <:+ all) : Reads limit all T T peek :=
  (leads_peek hT).mono (fun _ => id) fun _ _ h => h.1

theorem reads_advance (h : ∀ tokens, T tokens → U tokens.tail) : Reads limit all T U advance :=
  .modify fun r hr => h r.tokens hr

theorem reads_addNode (node : Node) : Reads limit all T T (addNode node) :=
  Keeps.of_get.bind fun _ => Leads.bind (.modify fun _ => id) fun _ => reads_pure _

theorem reads_addAnchored (anchor : Option (List Char)) (node : Node) :
    Reads limit all T T (addAnchored anchor node) := by
  refine (reads_addNode node).bind fun id => ?_
  split
  next => exact reads_pure _
  next =>
    refine Keeps.of_get.bind fun _ => Leads.guarded reads_malformed ?_
    exact Leads.bind (.modify fun _ hr => hr) fun _ => reads_pure id

theorem reads_fill (id : Nat) (content : Content) : Reads limit all T T (fill id content) :=
  .modify fun _ hr => hr

theorem reads_anchored (name : List Char) : Reads limit all T T (anchored name) := by
  refine Keeps.of_get.bind fun _ => ?_
  split
  next => exact reads_pure _
  next => exact reads_malformed

theorem reads_tagName (handle : Option (List Char)) (suffix : List Char) :
    Reads limit all T T (tagName handle suffix) := by
  rw [tagName.eq_def]
  split
  next => exact reads_pure _
  next =>
    refine Keeps.of_get.bind fun _ => ?_
    split
    next => exact reads_pure _
    next => exact reads_malformed

/-- A collection is added, then its members are read, and it gets them. -/
theorem reads_collection (anchor : Option (List Char)) (node : Node) {members : Read β}
    (hmembers : Reads limit all T U members) (content : β → Content) :
    Reads limit all T U (do
      let id ← addAnchored anchor node
      fill id (content (← members))
      return id) :=
  (reads_addAnchored anchor node).bind fun id => hmembers.bind fun _ =>
    (reads_fill id _).bind fun _ => reads_pure id

/-! ### Nodes -/

section Nodes

variable {levels : Nat}

/-- A part of the reading that keeps the tokens fitting. -/
abbrev KeepsFit (limit : Nat) (all : List Token) (levels : Nat) (m : Read α) : Prop :=
  Reads limit all (Fits limit all levels) (Fits limit all levels) m

theorem fit_peek : KeepsFit limit all levels peek :=
  reads_peek fun _ h => h.suffix

theorem leads_peek_fit :
    Leads (Fault.IsRead limit all) (fun r => Fits limit all levels r.tokens)
      (fun t r => Fits limit all levels r.tokens ∧ r.tokens.head? = some t) peek :=
  leads_peek fun _ h => h.suffix

theorem fit_advance : KeepsFit limit all levels advance :=
  reads_advance fun _ h => h.tail

theorem fit_expect (t : Token) : KeepsFit limit all levels (expect t) :=
  fit_peek.bind fun _ => .ite fit_advance reads_malformed

theorem fit_properties : KeepsFit limit all levels properties := by
  refine fit_peek.bind fun _ => ?_
  split
  next =>
    refine fit_advance.bind fun _ => fit_peek.bind fun _ => ?_
    split
    next => exact fit_advance.bind fun _ => reads_pure _
    next => exact reads_pure _
  next =>
    refine fit_advance.bind fun _ => fit_peek.bind fun _ => ?_
    split
    next => exact fit_advance.bind fun _ => reads_pure _
    next => exact reads_pure _
  next => exact reads_pure _

theorem fit_nodeUnless (ends : Token → Bool) {read : Read Nat} (h : KeepsFit limit all levels read) :
    KeepsFit limit all levels (nodeUnless ends read) :=
  fit_peek.bind fun _ => .ite (reads_addNode _) h

theorem fit_valueUnless (ends : Token → Bool) {read : Read Nat} (h : KeepsFit limit all levels read) :
    KeepsFit limit all levels (valueUnless ends read) :=
  fit_peek.bind fun _ =>
    .ite (fit_advance.bind fun _ => fit_nodeUnless ends h) (reads_addNode _)

theorem fit_separator (first : Bool) : KeepsFit limit all levels (separator first) :=
  .ite (reads_pure _) (fit_expect _)

/-- After a token that opens a collection the bound is smaller. -/
theorem reads_opening {t : Token} (ht : t.opens = true) :
    Reads limit all (fun tokens => Fits limit all levels tokens ∧ tokens.head? = some t)
      (Fits limit all (levels - 1)) advance :=
  reads_advance fun _ h => h.1.opened h.2 ht

theorem reads_opened {t : Token} (ht : t.opens = true) {m : Read α}
    (hm : KeepsFit limit all (levels - 1) m) :
    Reads limit all (fun tokens => Fits limit all levels tokens ∧ tokens.head? = some t)
      (Fits limit all levels) (advance >>= fun _ => m) :=
  (reads_opening ht).bind fun _ => hm.mono (fun _ => id) fun _ _ h => h.mono (Nat.sub_le ..)

theorem reads_after {t : Token} {m : Read α} (hm : KeepsFit limit all levels m) :
    Reads limit all (fun tokens => Fits limit all levels tokens ∧ tokens.head? = some t)
      (Fits limit all levels) m :=
  hm.mono (fun _ h => h.1) fun _ _ => id

end Nodes

/-- The readers of nodes with a bound on their steps. -/
structure ReadsNodes (limit : Nat) (all : List Token) (steps : Nat) : Prop where
  node : ∀ inLines inMapping levels, KeepsFit limit all levels (node inLines inMapping levels steps)
  blockItems : ∀ levels, KeepsFit limit all levels (blockItems levels steps)
  plainItems : ∀ levels, Reads limit all (FitsNext limit all levels) (FitsNext limit all levels)
    (plainItems levels steps)
  blockFields : ∀ levels, KeepsFit limit all levels (blockFields levels steps)
  flowItems : ∀ levels first, KeepsFit limit all levels (flowItems levels first steps)
  flowFields : ∀ levels first, KeepsFit limit all levels (flowFields levels first steps)

namespace ReadsNodes

variable {steps : Nat}

/-- The entries of a sequence in the lines of a mapping begin with a sign that is still to be read. -/
theorem plainItems_after (h : ReadsNodes limit all steps) (levels : Nat) :
    Reads limit all
      (fun tokens => Fits limit all (levels + 1) tokens ∧ tokens.head? = some .blockEntry)
      (Fits limit all (levels + 1)) (Read.plainItems levels steps) :=
  (h.plainItems levels).mono (fun _ hr => ⟨hr.1.suffix, hr.1.opened hr.2 rfl⟩) fun _ _ hr => hr.fits

theorem node_succ (h : ReadsNodes limit all steps) (inLines inMapping : Bool) (levels : Nat) :
    KeepsFit limit all levels (Read.node inLines inMapping levels (steps + 1)) := by
  rw [Read.node]
  cases levels with
  | zero =>
    have htooDeep : ∀ r : Reader, Fits limit all 0 r.tokens → Fault.IsRead limit all .tooDeep :=
      fun r hr => .tooDeep (Nat.le_trans (Nat.le_add_right ..) hr.le)
    rw [if_pos rfl]
    exact Leads.bind (J := fun _ _ => False) (.throw htooDeep) fun _ _ hnever => hnever.elim
  | succ levels =>
    have htag (tag : Option (Option (List Char) × List Char)) :
        KeepsFit limit all (levels + 1) _ :=
      Keeps.mapM_option (fun t => reads_tagName t.1 t.2) tag
    rw [if_neg (Nat.succ_ne_zero levels)]
    refine fit_peek.bind fun _ => ?_
    split
    next => exact fit_advance.bind fun _ => reads_anchored _
    next =>
      refine fit_properties.bind fun _ => (htag _).bind fun _ => leads_peek_fit.bind fun _ => ?_
      split
      next => exact reads_collection _ _ (h.plainItems_after levels) _
      next => exact reads_after (fit_advance.bind fun _ => reads_addAnchored _ _)
      next => exact reads_opened rfl (reads_collection _ _ (h.flowItems levels true) _)
      next => exact reads_opened rfl (reads_collection _ _ (h.flowFields levels true) _)
      next => exact reads_opened rfl (reads_collection _ _ (h.blockItems levels) _)
      next => exact reads_opened rfl (reads_collection _ _ (h.blockFields levels) _)
      next => exact reads_after (Leads.guarded reads_malformed (reads_addAnchored _ _))

theorem blockItems_succ (h : ReadsNodes limit all steps) (levels : Nat) :
    KeepsFit limit all levels (Read.blockItems levels (steps + 1)) := by
  rw [Read.blockItems]
  refine fit_peek.bind fun _ => ?_
  split
  next =>
    exact fit_advance.bind fun _ => (fit_nodeUnless _ (h.node _ _ _)).bind fun _ =>
      (h.blockItems levels).bind fun _ => reads_pure _
  next => exact fit_advance.bind fun _ => reads_pure _
  next => exact reads_malformed

theorem plainItems_succ (h : ReadsNodes limit all steps) (levels : Nat) :
    Reads limit all (FitsNext limit all levels) (FitsNext limit all levels)
      (Read.plainItems levels (steps + 1)) := by
  rw [Read.plainItems]
  refine (reads_peek fun _ h => h.suffix).bind fun _ => ?_
  split
  next =>
    have hnode := fit_nodeUnless endsPlainItem (h.node true false levels)
    have hrest := (h.plainItems levels).mono (fun _ hr => Fits.next hr) fun _ _ => id
    exact (reads_advance fun _ h => h.tail).bind fun _ => hnode.bind fun _ =>
      hrest.bind fun _ => reads_pure _
  next => exact reads_pure _

theorem blockFields_succ (h : ReadsNodes limit all steps) (levels : Nat) :
    KeepsFit limit all levels (Read.blockFields levels (steps + 1)) := by
  rw [Read.blockFields]
  refine fit_peek.bind fun _ => ?_
  split
  next =>
    exact fit_advance.bind fun _ => (fit_nodeUnless _ (h.node _ _ _)).bind fun _ =>
      (fit_valueUnless _ (h.node _ _ _)).bind fun _ => (h.blockFields levels).bind fun _ =>
        reads_pure _
  next => exact fit_advance.bind fun _ => reads_pure _
  next => exact reads_malformed

theorem flowItems_succ (h : ReadsNodes limit all steps) (levels : Nat) (first : Bool) :
    KeepsFit limit all levels (Read.flowItems levels first (steps + 1)) := by
  rw [Read.flowItems]
  refine fit_peek.bind fun _ => .ite (fit_advance.bind fun _ => reads_pure _) ?_
  refine (fit_separator first).bind fun _ => leads_peek_fit.bind fun _ => ?_
  split
  next =>
    have hkey := fit_nodeUnless (fun t => t = .value || endsFlowItem t)
      (h.node false false (levels - 1))
    have hvalue := fit_valueUnless endsFlowItem (h.node false false (levels - 1))
    have hrest := (h.flowItems levels false).mono
      (fun _ hr => Fits.mono hr (Nat.sub_le levels 1)) fun _ _ => id
    exact (reads_opening rfl).bind fun _ => hkey.bind fun _ => hvalue.bind fun _ =>
      (reads_addNode _).bind fun _ => hrest.bind fun _ => reads_pure _
  next => exact reads_after (fit_advance.bind fun _ => reads_pure _)
  next =>
    exact reads_after ((h.node _ _ _).bind fun _ => (h.flowItems levels false).bind fun _ => reads_pure _)

theorem flowFields_succ (h : ReadsNodes limit all steps) (levels : Nat) (first : Bool) :
    KeepsFit limit all levels (Read.flowFields levels first (steps + 1)) := by
  rw [Read.flowFields]
  refine fit_peek.bind fun _ => .ite (fit_advance.bind fun _ => reads_pure _) ?_
  refine (fit_separator first).bind fun _ => fit_peek.bind fun _ => ?_
  split
  next =>
    exact fit_advance.bind fun _ => (fit_nodeUnless _ (h.node _ _ _)).bind fun _ =>
      (fit_valueUnless _ (h.node _ _ _)).bind fun _ =>
        (h.flowFields levels false).bind fun _ => reads_pure _
  next => exact fit_advance.bind fun _ => reads_pure _
  next =>
    exact (h.node _ _ _).bind fun _ => (reads_addNode _).bind fun _ =>
      (h.flowFields levels false).bind fun _ => reads_pure _

end ReadsNodes

theorem readsNodes (limit : Nat) (all : List Token) (steps : Nat) : ReadsNodes limit all steps := by
  -- the readers call each other, each with one step less
  induction steps with
  | zero =>
    exact ⟨fun _ _ _ => reads_malformed, fun _ => reads_malformed, fun _ => reads_malformed,
      fun _ => reads_malformed, fun _ _ => reads_malformed, fun _ _ => reads_malformed⟩
  | succ steps ih =>
    exact ⟨ih.node_succ, ih.blockItems_succ, ih.plainItems_succ, ih.blockFields_succ,
      ih.flowItems_succ, ih.flowFields_succ⟩

/-! ### Documents -/

section Documents

variable {levels : Nat}

theorem fit_directives (seen : Bool) (steps : Nat) :
    KeepsFit limit all levels (directives seen steps) := by
  induction steps generalizing seen with
  | zero => exact reads_malformed
  | succ steps ih =>
    rw [directives]
    refine fit_peek.bind fun _ => ?_
    split
    next =>
      refine fit_advance.bind fun _ => ?_
      split
      next => exact Leads.guarded reads_malformed (ih true)
      next =>
        refine Keeps.of_get.bind fun _ => Leads.guarded reads_malformed ?_
        exact Leads.bind (.modify fun _ hr => hr) fun _ => ih seen
      next => exact ih seen
    next => exact reads_pure _

theorem fit_endOfText (steps : Nat) : KeepsFit limit all levels (endOfText steps) := by
  have hskip : KeepsFit limit all levels skipDocumentEnds :=
    .modify fun _ hr => Fits.of_suffix hr (List.dropWhile_suffix _)
  refine hskip.bind fun _ => fit_peek.bind fun _ => .ite (reads_pure _) ?_
  refine Leads.bind (.modify fun _ hr => hr) fun _ => (fit_directives false steps).bind fun _ => ?_
  exact fit_peek.bind fun _ => reads_malformed

theorem fit_document (steps : Nat) : KeepsFit limit all levels (document levels steps) := by
  have hhandles : KeepsFit limit all levels addStandardHandles := .modify fun _ hr => hr
  have hnode := (readsNodes limit all steps).node true false levels
  have hend : ∀ root : Nat, KeepsFit limit all levels (do endOfText steps; return some root) :=
    fun root => (fit_endOfText steps).bind fun _ => reads_pure (some root)
  have hafterDirectives : KeepsFit limit all levels (do
      directives false steps
      addStandardHandles
      expect .documentStart
      let root ← nodeUnless endsDocument (node true false levels steps)
      endOfText steps
      return some root) :=
    (fit_directives false steps).bind fun _ => hhandles.bind fun _ =>
      (fit_expect _).bind fun _ => (fit_nodeUnless _ hnode).bind hend
  refine fit_peek.bind fun _ => ?_
  dsimp only
  split
  next => exact reads_pure none
  next => exact hafterDirectives
  next => exact hafterDirectives
  next => exact hhandles.bind fun _ => hnode.bind hend

end Documents

end Read

/-- The reading of a document has no faults but those of reading tokens. -/
theorem ofTokens_failsWith (levels : Nat) (tokens : Array Token) :
    FailsWith (Fault.IsRead levels tokens.toList) (Graph.ofTokens levels tokens) :=
  (Read.fit_document _ ⟨tokens.toList, #[], [], []⟩ (.start levels tokens.toList)).bind fun _ _ =>
    trivial

end DeclSplit.Yaml
