import DeclSplit.Proofs.Attempts
import DeclSplit.Proofs.Ir.Document
import DeclSplit.Proofs.Ir.Reading
import DeclSplit.Proofs.Tree.Listing

/-!
# Normal forms of documents

Many values are read as the same tree: members may be missing, a text or an object may stand for the list
of dependencies, and whatever counts as false may stand for a missing mark.  Of these values the one that
is written for the tree is the normal form.  It is read as the tree again, and different trees have
different ones.  Values are compared here in two ways, as they are and by what they stand for, where
`1` and `true` are the same.

* `Ir.hasNames_of_ofJson` — the names in what is read are those of the value;
* `Ir.sameTree_iff` — two trees stand for the same if they match node by node;
* `Ir.same_toJson` — the objects of two trees stand for the same exactly if the trees do;
* `Ir.toJson_isNormalForm` — writing gives normal forms.
-/

namespace DeclSplit.Ir

open Workspace (sameTree sameLabel ofTexts)

/-! ### What is read -/

theorem IsDocument.imp {isName isName' : Json → Prop} (h : ∀ n, isName n → isName' n) {d : Json}
    (hd : IsDocument isName d) : IsDocument isName' d := by
  induction hd with
  | node hkind hlist _ hmark hnames ih =>
    refine .node hkind hlist ih hmark fun v hv => (hnames v hv).imp_right (Or.imp_right ?_)
    rintro ⟨items, rfl, hitems⟩
    exact ⟨items, rfl, fun n hn => h n (hitems n hn)⟩

/-- The children and the dependencies of the tree that is read from an object. -/
theorem ofJson_obj_eq_ok {levels : Nat} {members : List (String × Json)} {t : Ir Json}
    (h : ofJson (levels + 1) (.obj members) = .ok t) :
    childrenOfMembers levels members = .ok t.children ∧
      readDependencies members = .ok t.label.dependencies := by
  rw [ofJson] at h
  cases hkind : members.lookup "node_type" with
  | none => rw [hkind] at h; cases h
  | some kind =>
    rw [hkind] at h
    obtain ⟨children, hchildren, h⟩ := bind_eq_ok.1 h
    obtain ⟨mark, -, h⟩ := bind_eq_ok.1 h
    obtain ⟨names, hnames, h⟩ := bind_eq_ok.1 h
    obtain rfl := Except.ok.inj h
    exact ⟨hchildren, hnames⟩

/-- Each child that is read is read from one of the values. -/
theorem exists_mem_of_ofItems {levels : Nat} {vs : List Json} {ts : List (Ir Json)}
    (h : ofItems levels vs = .ok ts) : ∀ t ∈ ts, ∃ v ∈ vs, ofJson levels v = .ok t := by
  induction vs generalizing ts with
  | nil =>
    obtain rfl : [] = ts := Except.ok.inj h
    exact fun t ht => absurd ht List.not_mem_nil
  | cons v vs ih =>
    rw [ofItems] at h
    obtain ⟨t, hv, h⟩ := bind_eq_ok.1 h
    obtain ⟨us, hvs, h⟩ := bind_eq_ok.1 h
    obtain rfl := Except.ok.inj h
    rw [List.forall_mem_cons]
    refine ⟨⟨v, List.mem_cons_self, hv⟩, fun u hu => ?_⟩
    obtain ⟨w, hw, hread⟩ := ih hvs u hu
    exact ⟨w, List.mem_cons_of_mem v hw, hread⟩

/-- The contents of a value are the dependencies that are read from it. -/
theorem mem_of_readDependencies {members : List (String × Json)} {names : NameSet Json}
    (h : readDependencies members = .ok names) {n : Json} (hn : n ∈ names) :
    ∃ v contents, members.lookup "dependencies" = some v ∧ v.contents? = some contents ∧
      n ∈ contents := by
  rw [readDependencies] at h
  cases hlookup : members.lookup "dependencies" with
  | none =>
    rw [hlookup] at h
    obtain rfl := Except.ok.inj h
    exact absurd hn (NameSet.not_mem_empty n)
  | some v =>
    rw [hlookup] at h
    dsimp only at h
    cases hcontents : v.contents? with
    | none => rw [hcontents] at h; cases h
    | some contents =>
      rw [hcontents] at h
      dsimp only at h
      split at h
      next =>
        obtain rfl := Except.ok.inj h
        exact ⟨v, contents, rfl, hcontents, NameSet.mem_of_mem_ofList hn⟩
      next => cases h

/-- The contents of a text and of an object are texts. -/
theorem isText_of_mem_contents {v : Json}
    (h : (∃ s, v = .str s) ∨ (∃ inner, v = .obj inner) ∨
      ∃ items, v = .arr items ∧ ∀ n ∈ items, n.IsText)
    {contents : List Json} (hcontents : v.contents? = some contents) {n : Json} (hn : n ∈ contents) :
    n.IsText := by
  obtain ⟨s, rfl⟩ | ⟨inner, rfl⟩ | ⟨items, rfl, hitems⟩ := h
  · obtain rfl := Option.some.inj hcontents
    obtain ⟨c, -, rfl⟩ := List.mem_map.1 hn
    exact ⟨_, rfl⟩
  · obtain rfl := Option.some.inj hcontents
    obtain ⟨member, -, rfl⟩ := List.mem_map.1 hn
    exact ⟨_, rfl⟩
  · obtain rfl := Option.some.inj hcontents
    exact hitems n hn

/-- Each child that is read is read from an item of an array. -/
theorem exists_item_of_childrenOfMembers {levels : Nat} {members : List (String × Json)}
    {ts : List (Ir Json)} (h : childrenOfMembers levels members = .ok ts) :
    ∀ t ∈ ts, ∃ items, members.lookup "children" = some (.arr items) ∧
      ∃ v ∈ items, ofJson levels v = .ok t := by
  -- a character or a name would have to be read as a tree
  have hnoObject : ∀ {d : Json} {t : Ir Json}, (∀ members, d ≠ .obj members) →
      ofJson levels d ≠ .ok t := by
    intro d t hd hread
    have hwrong := reports_ofJson levels d
    rw [hread, violations_of_not_obj hd] at hwrong
    exact nomatch hwrong
  rw [childrenOfMembers_eq, childValues?] at h
  intro t ht
  cases hlookup : members.lookup "children" with
  | none =>
    rw [hlookup] at h
    obtain ⟨v, hv, -⟩ := exists_mem_of_ofItems h t ht
    exact absurd hv List.not_mem_nil
  | some v =>
    rw [hlookup] at h
    cases v with
    | arr items => exact ⟨items, rfl, exists_mem_of_ofItems h t ht⟩
    | str s =>
      obtain ⟨v, hv, hread⟩ := exists_mem_of_ofItems h t ht
      obtain ⟨c, -, rfl⟩ := List.mem_map.1 hv
      exact absurd hread (hnoObject fun _ h => by cases h)
    | obj inner =>
      obtain ⟨v, hv, hread⟩ := exists_mem_of_ofItems h t ht
      obtain ⟨member, -, rfl⟩ := List.mem_map.1 hv
      exact absurd hread (hnoObject fun _ h => by cases h)
    | _ => cases h

/-- The dependencies of a tree that is read are texts if those of the value are. -/
theorem hasNames_of_ofJson {levels : Nat} {d : Json} (hd : IsDocument Json.IsText d) {t : Ir Json}
    (h : ofJson levels d = .ok t) : t.HasNames Json.IsText := by
  induction hd generalizing levels t with
  | node _ _ _ _ hnames ih =>
    cases levels with
    | zero => exact nomatch h
    | succ levels =>
      obtain ⟨label, ts⟩ := t
      obtain ⟨hchildren, hdependencies⟩ := ofJson_obj_eq_ok h
      refine hasNames_node_iff.2 ⟨fun n hn => ?_, fun t ht => ?_⟩
      · obtain ⟨v, contents, hlookup, hcontents, hmem⟩ := mem_of_readDependencies hdependencies hn
        exact isText_of_mem_contents (hnames v hlookup) hcontents hmem
      · obtain ⟨items, hlookup, v, hv, hread⟩ := exists_item_of_childrenOfMembers hchildren t ht
        exact ih items hlookup v hv hread

/-- A tree that is read has no more levels than the reader. -/
theorem depth_le_of_ofJson {levels : Nat} {d : Json} {t : Ir Json} (h : ofJson levels d = .ok t) :
    t.depth ≤ levels := by
  induction levels generalizing d t with
  | zero =>
    rw [ofJson] at h
    cases h
  | succ levels ih =>
    cases d with
    | obj members =>
      obtain ⟨label, ts⟩ := t
      obtain ⟨hchildren, -⟩ := ofJson_obj_eq_ok h
      refine (Tree.depth_le_iff label ts).2 fun t ht => ?_
      obtain ⟨items, -, v, -, hread⟩ := exists_item_of_childrenOfMembers hchildren t ht
      exact ih hread
    | _ =>
      rw [ofJson] at h
      · cases h
      · intro members hobj
        cases hobj

/-- A value whose dependencies are texts is read as a tree whose dependencies are texts, if it is not too
deep. -/
theorem exists_ofJson_eq_ok {levels : Nat} {d : Json} (hd : IsDocument Json.IsText d)
    (hdepth : documentDepth d ≤ levels) :
    ∃ t, ofJson levels d = .ok t ∧ t.HasNames Json.IsText := by
  have hreports := reports_ofJson levels d
  rw [(violations_eq_nil_iff d).2 ⟨hd.imp fun _ hn => hn.isScalar, hdepth⟩] at hreports
  cases hread : ofJson levels d with
  | ok t => exact ⟨t, rfl, hasNames_of_ofJson hd hread⟩
  | error e => rw [hread] at hreports; exact nomatch hreports

/-! ### Values that stand for the same -/

theorem isEqv_iff_forall₂ {α : Type} {same : α → α → Bool} {as bs : List α} :
    as.isEqv bs same = true ↔ List.Forall₂ (fun a b => same a b = true) as bs := by
  induction as generalizing bs with
  | nil => cases bs <;> simp [List.isEqv]
  | cons a as ih => cases bs <;> simp [List.isEqv, ih]

theorem sameItems_iff_forall₂ {vs ws : List Json} :
    Json.sameItems vs ws = true ↔ List.Forall₂ (fun v w => v.same w = true) vs ws := by
  induction vs generalizing ws with
  | nil => cases ws <;> simp [Json.sameItems]
  | cons v vs ih => cases ws <;> simp [Json.sameItems, ih]

/-- Two trees stand for the same if they match node by node. -/
theorem sameTree_iff (t u : Ir Json) :
    sameTree t u = true ↔ t.Matches (fun l m => sameLabel l m = true) u := by
  rw [sameTree, isEqv_iff_forall₂, Tree.Matches]
  simp only [Bool.and_eq_true, beq_iff_eq]
  rfl

theorem same_of_isScalar {v w : Json} (hv : v.isScalar = true) (hw : w.isScalar = true) :
    v.same w = (compare v w == .eq) := by
  cases v <;> cases w <;> simp_all [Json.same, Json.isScalar]

theorem same_markToJson (mark mark' : Option ControlFlow) :
    (markToJson mark).same (markToJson mark') = (mark == mark') := by
  rcases mark with _ | ⟨⟨⟩⟩ <;> rcases mark' with _ | ⟨⟨⟩⟩ <;> decide +kernel

theorem sameItems_of_isScalar {vs ws : List Json} (hv : ∀ v ∈ vs, v.isScalar = true)
    (hw : ∀ w ∈ ws, w.isScalar = true) :
    Json.sameItems vs ws = vs.isEqv ws fun v w => compare v w == .eq := by
  induction vs generalizing ws with
  | nil => cases ws <;> rfl
  | cons v vs ih =>
    cases ws with
    | nil => rfl
    | cons w ws =>
      rw [List.forall_mem_cons] at hv hw
      rw [Json.sameItems, List.isEqv, same_of_isScalar hv.1 hw.1, ih hv.2 hw.2]

/-- The members of the objects of two nodes are compared one by one. -/
theorem same_nodeToJson (l m : Label Json) (cs ds : List Json) :
    (nodeToJson id l cs).same (nodeToJson id m ds) =
      (l.kind.same m.kind && (l.name.same m.name && (Json.sameItems cs ds &&
        ((markToJson l.controlFlow).same (markToJson m.controlFlow) &&
          Json.sameItems (l.dependencies.toList.map id) (m.dependencies.toList.map id))))) := by
  simp [nodeToJson_eq, membersOf, Json.same, Json.sameMembers, List.lookup_cons]

/-- The objects of two nodes stand for the same if their labels do and the objects of their children one
by one. -/
theorem same_nodeToJson_iff {l m : Label Json} (hl : ∀ n ∈ l.dependencies, n.isScalar = true)
    (hm : ∀ n ∈ m.dependencies, n.isScalar = true) (cs ds : List Json) :
    (nodeToJson id l cs).same (nodeToJson id m ds) = true ↔
      sameLabel l m = true ∧ List.Forall₂ (fun v w => v.same w = true) cs ds := by
  rw [same_nodeToJson, same_markToJson, List.map_id, List.map_id, sameItems_of_isScalar hl hm, sameLabel]
  simp only [Bool.and_eq_true, sameItems_iff_forall₂]
  constructor
  · rintro ⟨hkind, hname, hchildren, hmark, hnames⟩
    exact ⟨⟨⟨⟨hkind, hname⟩, hmark⟩, hnames⟩, hchildren⟩
  · rintro ⟨⟨⟨⟨hkind, hname⟩, hmark⟩, hnames⟩, hchildren⟩
    exact ⟨hkind, hname, hchildren, hmark, hnames⟩

/-- The objects of two trees stand for the same exactly if the trees do. -/
theorem same_toJson {t u : Ir Json} (ht : t.HasNames fun n => n.isScalar = true)
    (hu : u.HasNames fun n => n.isScalar = true) : (t.toJson id).same (u.toJson id) = sameTree t u := by
  rw [Bool.eq_iff_iff, sameTree_iff]
  induction t using Tree.induction generalizing u with
  | node l ts ih =>
    obtain ⟨m, us⟩ := u
    rw [hasNames_node_iff] at ht hu
    have hchildren : List.Forall₂ (fun v w => v.same w = true) (ts.map (toJson id))
          (us.map (toJson id)) ↔
        List.Forall₂ (Tree.Matches fun l m => sameLabel l m = true) ts us := by
      rw [List.forall₂_map_left_iff, List.forall₂_map_right_iff]
      exact Tree.forall₂_congr_of_mem fun t hts u hus => ih t hts (ht.2 t hts) (hu.2 u hus)
    rw [toJson_node, toJson_node, same_nodeToJson_iff ht.1 hu.1, hchildren, Tree.matches_node_iff]

/-! ### Normal forms -/

theorem namesAreComparable_of_isText {names : NameSet Json} (h : ∀ n ∈ names, n.IsText) :
    namesAreComparable names = true := by
  have hrank : ∀ n ∈ names.toList, n.rank = 2 := by
    intro n hn
    obtain ⟨s, rfl⟩ := h n hn
    rfl
  rw [namesAreComparable]
  split
  next => rfl
  next => rfl
  next first rest _ hlist =>
    rw [hlist, List.forall_mem_cons] at hrank
    rw [hrank.1, List.all_eq_true.2 fun n hn => beq_iff_eq.2 (hrank.2 n hn)]
    rfl

/-- The dependencies of a tree can be listed in order if they are texts. -/
theorem isListable_of_hasNames {t : Ir Json} (h : t.HasNames Json.IsText) : t.isListable = true := by
  rw [isListable, Tree.labels, List.all_map, List.all_eq_true]
  exact fun s hs => namesAreComparable_of_isText (h s hs)

/-- A tree whose dependencies are texts has an object, which is read as the tree again by every reader
that gets so deep.  The objects of two such trees are equal exactly if the trees are, and stand for the
same exactly if the trees do; so also where the trees were made of texts only.  Whatever is read as such
a tree, the object of the tree is read and written again as it is. -/
theorem toJson_isNormalForm :
    (∀ t : Ir Json, t.HasNames Json.IsText →
      t.isListable = true ∧ ∀ levels, t.depth ≤ levels → ofJson levels (t.toJson id) = .ok t) ∧
    (∀ t u : Ir Json, t.HasNames Json.IsText → u.HasNames Json.IsText →
      (t.toJson id = u.toJson id ↔ t = u) ∧ (t.toJson id).same (u.toJson id) = sameTree t u) ∧
    (∀ t u : Ir String,
      (∀ levels, t.depth ≤ levels → ofJson levels (t.toJson Json.str) = .ok (ofTexts t)) ∧
      (t.toJson Json.str = u.toJson Json.str ↔ t = u)) ∧
    ∀ levels d, IsDocument Json.IsText d → documentDepth d ≤ levels →
      ∃ t, ofJson levels d = .ok t ∧ t.HasNames Json.IsText ∧
        (ofJson levels (t.toJson id)).map (toJson id) = .ok (t.toJson id) := by
  have hread : ∀ (t : Ir Json) (levels : Nat), t.HasNames Json.IsText → t.depth ≤ levels →
      ofJson levels (t.toJson id) = .ok t :=
    fun t levels ht hdepth => ofJson_toJson_id (ht.imp fun _ hn => hn.isScalar) hdepth
  refine ⟨fun t ht => ⟨isListable_of_hasNames ht, fun levels => hread t levels ht⟩,
    fun t u ht hu => ⟨⟨fun h => ?_, fun h => by rw [h]⟩, ?_⟩,
    fun t u => ⟨fun levels => ofJson_toJson, fun h => ?_, fun h => by rw [h]⟩,
    fun levels d hd hdepth => ?_⟩
  · have hsame := hread t (max t.depth u.depth) ht (Nat.le_max_left ..)
    rw [h, hread u _ hu (Nat.le_max_right ..)] at hsame
    exact (Except.ok.inj hsame).symm
  · exact same_toJson (ht.imp fun _ hn => hn.isScalar) (hu.imp fun _ hn => hn.isScalar)
  · exact toJson_str_injective h
  · obtain ⟨t, ht, hnames⟩ := exists_ofJson_eq_ok hd hdepth
    refine ⟨t, ht, hnames, ?_⟩
    rw [hread t levels hnames (depth_le_of_ofJson ht)]
    rfl

/-- Two objects with kinds that are no texts and stand for the same, without a name, with an object for the
list of dependencies, and with a child that has a text for it, an empty text for the list of children and a
mark that counts as false. -/
theorem toJson_isNormalForm_lenient :
    let d (kind : Json) : Json := .obj [("node_type", kind), ("children", .arr [.obj [
      ("node_type", .str "A"), ("name", .null), ("children", .str ""), ("control_flow", .int 0),
      ("dependencies", .str "ba")]]), ("control_flow", .str "Branch"),
      ("dependencies", .obj [("é", .null), ("", .int 2)])]
    let t (kind : Json) : Ir Json := .node ⟨kind, .str "", some .branch, .ofList [.str "é", .str ""]⟩
      [.node ⟨.str "A", .null, none, .ofList [.str "b", .str "a"]⟩ []]
    ofJson 2 (d (.bool true)) = .ok (t (.bool true)) ∧
      ofJson 2 ((t (.bool true)).toJson id) = .ok (t (.bool true)) ∧
      (t (.bool true)).toJson id ≠ (t (.int 1)).toJson id ∧
      ((t (.bool true)).toJson id).same ((t (.int 1)).toJson id) = true ∧
      ∃ u, ofJson 2 (d (.int 1)) = .ok u ∧
        (ofJson 2 (u.toJson id)).map (toJson id) = .ok (u.toJson id) := by
  intro d t
  have hchild : IsDocument Json.IsText (.obj [("node_type", .str "A"), ("name", .null),
      ("children", .str ""), ("control_flow", .int 0), ("dependencies", .str "ba")]) := by
    refine .node ⟨_, rfl⟩ ?_ ?_ ?_ ?_
    · rintro _ ⟨⟩
      exact .inl rfl
    · rintro _ ⟨⟩
    · rintro _ ⟨⟩
      exact .inl rfl
    · rintro _ ⟨⟩
      exact .inl ⟨_, rfl⟩
  have hd : ∀ kind, IsDocument Json.IsText (d kind) := by
    refine fun kind => .node ⟨_, rfl⟩ ?_ ?_ ?_ ?_
    · rintro _ ⟨⟩
      exact .inr (.inr ⟨_, rfl⟩)
    · rintro _ ⟨⟩ child hmem
      rw [List.mem_singleton.1 hmem]
      exact hchild
    · rintro _ ⟨⟩
      exact .inr rfl
    · rintro _ ⟨⟩
      exact .inr (.inl ⟨_, rfl⟩)
  have htrue : ofJson 2 (d (.bool true)) = .ok (t (.bool true)) := by decide +kernel
  have hone : ofJson 2 (d (.int 1)) = .ok (t (.int 1)) := by decide +kernel
  have ht := hasNames_of_ofJson (hd _) htrue
  obtain ⟨hequal, hsame⟩ := toJson_isNormalForm.2.1 _ _ ht (hasNames_of_ofJson (hd _) hone)
  obtain ⟨u, hu, -, hagain⟩ := toJson_isNormalForm.2.2.2 2 _ (hd (.int 1)) (by decide +kernel)
  refine ⟨htrue, (toJson_isNormalForm.1 _ ht).2 2 (depth_le_of_ofJson htrue), fun h => ?_, ?_, u, hu, hagain⟩
  · exact absurd (hequal.1 h) (by decide +kernel)
  · rw [hsame]
    decide +kernel

end DeclSplit.Ir
