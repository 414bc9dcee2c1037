import DeclSplit.Ir.Document

/-!
# Which values are read

A value is read as a tree exactly if it is the object of one, in the lenient sense of the reader, and no
deeper than the reader gets.  Otherwise the first violation in it is reported.  What is right and what
is wrong with a value is said here without a reader: all violations are listed, each node is checked in
a fixed order, and nothing is left out after the first of them.

* `Ir.IsDocument` — the values that are the object of a tree;
* `Ir.documentDepth` — how many levels a reader has to go down in a value;
* `Ir.violations` — all that is wrong with a value, in the order of the checks;
* `Ir.tooDeep_mem_violations_iff`, `Ir.violations_eq_nil_iff` — when a value is too deep, and when there
  is no violation;
* `Ir.ofJson_cases` — what reading a value comes to;
* `Ir.ofJson_chain_tooDeep` — the object of a tree that is not read.
-/

namespace DeclSplit.Ir

/-! ### Objects of trees -/

/-- The values that are the object of a tree: the kind is there, what stands for the children is empty or
an array of such values, the mark counts as false or is the known one, and what stands for the
dependencies is a text, an object, or an array of names. -/
inductive IsDocument (isName : Json → Prop) : Json → Prop where
  | node {members : List (String × Json)}
      (hkind : ∃ kind, members.lookup "node_type" = some kind)
      (hlist : ∀ v, members.lookup "children" = some v →
        v = .str "" ∨ v = .obj [] ∨ ∃ items, v = .arr items)
      (hchildren : ∀ items, members.lookup "children" = some (.arr items) →
        ∀ child ∈ items, IsDocument isName child)
      (hmark : ∀ v, members.lookup "control_flow" = some v → v.isTruthy = false ∨ v = .str "Branch")
      (hnames : ∀ v, members.lookup "dependencies" = some v →
        (∃ s, v = .str s) ∨ (∃ inner, v = .obj inner) ∨ ∃ items, v = .arr items ∧ ∀ n ∈ items, isName n) :
      IsDocument isName (.obj members)

mutual

/-- How many levels a reader has to go down in a value; the value itself is the first. -/
def documentDepth : Json → Nat
  | .obj members => childrenDepth members + 1
  | _ => 1

/-- The number of levels of the children among the members of an object. -/
def childrenDepth : List (String × Json) → Nat
  | [] => 0
  | (name, v) :: rest => if "children" == name then listDepth v else childrenDepth rest

/-- The number of levels of a value that stands for the children. -/
def listDepth : Json → Nat
  | .arr items => itemsDepth items
  | .str s => if s = "" then 0 else 1
  | .obj members => if members = [] then 0 else 1
  | _ => 0

/-- The number of levels of the deepest of the items of an array. -/
def itemsDepth : List Json → Nat
  | [] => 0
  | v :: vs => max (documentDepth v) (itemsDepth vs)

end

/-! ### Violations -/

/-- What is wrong with the kind of a node. -/
def kindViolations (members : List (String × Json)) : List ReadError :=
  if (members.lookup "node_type").isSome then [] else [.missingKind]

/-- What is wrong with the mark of a node. -/
def markViolations (members : List (String × Json)) : List ReadError :=
  match members.lookup "control_flow" with
  | none => []
  | some v => if v.isTruthy ∧ v ≠ .str "Branch" then [.unknownControlFlow v] else []

/-- What is wrong with the dependencies of a node. -/
def nameViolations (members : List (String × Json)) : List ReadError :=
  match members.lookup "dependencies" with
  | none | some (.str _) | some (.obj _) => []
  | some (.arr items) => if ∀ n ∈ items, n.isScalar then [] else [.badDependencies]
  | some _ => [.badDependencies]

mutual

/-- All that is wrong with a value as the object of a tree for a reader of so many levels, in the order
of the checks: the kind of the node, its children from left to right with all that is below them, its
mark, its dependencies.  Below the last level nothing is checked. -/
def violations : (levels : Nat) → Json → List ReadError
  | 0, _ => [.tooDeep]
  | levels + 1, .obj members =>
    kindViolations members ++ (childViolations levels members ++
      (markViolations members ++ nameViolations members))
  | _ + 1, _ => [.notAnObject]

/-- What is wrong with the children among the members of an object. -/
def childViolations (levels : Nat) : List (String × Json) → List ReadError
  | [] => []
  | (name, v) :: rest =>
    if "children" == name then listViolations levels v else childViolations levels rest

/-- What is wrong with a value that stands for the children; each character of a text and each name of a
member counts as a child that is not an object. -/
def listViolations (levels : Nat) : Json → List ReadError
  | .arr items => itemViolations levels items
  | .str s => s.toList.map fun _ => if levels = 0 then .tooDeep else .notAnObject
  | .obj members => members.map fun _ => if levels = 0 then .tooDeep else .notAnObject
  | _ => [.childrenNotIterable]

/-- What is wrong with the items of an array of children. -/
def itemViolations (levels : Nat) : List Json → List ReadError
  | [] => []
  | v :: vs => violations levels v ++ itemViolations levels vs

end

theorem itemViolations_eq_flatMap (levels : Nat) (vs : List Json) :
    itemViolations levels vs = vs.flatMap (violations levels) := by
  induction vs with
  | nil => rw [itemViolations, List.flatMap_nil]
  | cons v vs ih => rw [itemViolations, ih, List.flatMap_cons]

theorem violations_of_not_obj {levels : Nat} {d : Json} (h : ∀ members, d ≠ .obj members) :
    violations levels d = [if levels = 0 then .tooDeep else .notAnObject] := by
  cases levels with
  | zero => rw [violations, if_pos rfl]
  | succ levels =>
    cases d with
    | obj members => exact absurd rfl (h members)
    | _ => rfl

/-- Values none of which is an object are wrong one by one. -/
theorem flatMap_violations_map {β : Type} {f : β → Json} (h : ∀ b members, f b ≠ .obj members)
    (levels : Nat) (bs : List β) :
    (bs.map f).flatMap (violations levels) =
      bs.map fun _ => if levels = 0 then .tooDeep else .notAnObject := by
  induction bs with
  | nil => rfl
  | cons b bs ih =>
    rw [List.map_cons, List.flatMap_cons, ih, violations_of_not_obj (h b), List.map_cons,
      List.singleton_append]

/-- Whatever has contents is a list of children. -/
theorem listViolations_eq (levels : Nat) (v : Json) :
    listViolations levels v =
      (v.contents?.map (·.flatMap (violations levels))).getD [.childrenNotIterable] := by
  cases v with
  | arr items =>
    rw [listViolations, itemViolations_eq_flatMap]
    rfl
  | str s => exact (flatMap_violations_map (fun _ _ h => by cases h) levels s.toList).symm
  | obj members => exact (flatMap_violations_map (fun _ _ h => by cases h) levels members).symm
  | _ => rfl

/-! ### The values that stand for children -/

/-- What is read for the children of a node, one value for each child; none for a value without
contents. -/
def childValues? (members : List (String × Json)) : Option (List Json) :=
  match members.lookup "children" with
  | none => some []
  | some v => v.contents?

theorem childViolations_eq (levels : Nat) (members : List (String × Json)) :
    childViolations levels members =
      ((childValues? members).map (·.flatMap (violations levels))).getD [.childrenNotIterable] := by
  rw [childValues?]
  induction members with
  | nil => rw [childViolations]; rfl
  | cons member rest ih =>
    obtain ⟨name, v⟩ := member
    rw [childViolations, List.lookup_cons]
    cases hname : ("children" == name) with
    | true => exact listViolations_eq levels v
    | false => exact ih

/-! ### The reader -/

theorem ofContents_eq (levels : Nat) (v : Json) :
    ofContents levels v =
      (v.contents?.map (ofItems levels)).getD (.error .childrenNotIterable) := by
  cases v with
  | arr items => rfl
  | str s =>
    rw [ofContents]
    show _ = ofItems levels (s.toList.map _)
    by_cases hs : s = ""
    · rw [if_pos hs, hs]
      rfl
    · obtain ⟨c, cs, hcs⟩ := List.exists_cons_of_ne_nil fun h => hs (String.toList_eq_nil_iff.1 h)
      rw [if_neg hs, hcs]
      cases levels <;> rfl
  | obj members =>
    cases members with
    | nil => rfl
    | cons member rest => cases levels <;> rfl
  | _ => rfl

theorem childrenOfMembers_eq (levels : Nat) (members : List (String × Json)) :
    childrenOfMembers levels members =
      ((childValues? members).map (ofItems levels)).getD (.error .childrenNotIterable) := by
  rw [childValues?]
  induction members with
  | nil => rfl
  | cons member rest ih =>
    obtain ⟨name, v⟩ := member
    rw [childrenOfMembers, List.lookup_cons]
    cases hname : ("children" == name) with
    | true => exact ofContents_eq levels v
    | false => exact ih

/-- A check ends with a value if nothing is wrong, and otherwise with the first violation. -/
def Reports {σ : Type} (x : Except ReadError σ) (found : List ReadError) : Prop :=
  match x with
  | .ok _ => found = []
  | .error e => found.head? = some e

/-- Of two checks the second one counts if the first one finds nothing wrong. -/
theorem Reports.bind {σ τ : Type} {x : Except ReadError σ} {f : σ → Except ReadError τ}
    {found more : List ReadError} (hx : Reports x found) (hf : ∀ s, Reports (f s) more) :
    Reports (x >>= f) (found ++ more) := by
  cases x with
  | ok s =>
    obtain rfl : found = [] := hx
    exact hf s
  | error e =>
    show (found ++ more).head? = some e
    rw [List.head?_append, show found.head? = some e from hx, Option.some_or]

theorem Reports.map {σ τ : Type} {x : Except ReadError σ} {found : List ReadError}
    (hx : Reports x found) (f : σ → τ) : Reports (x >>= fun s => .ok (f s)) found := by
  rw [← List.append_nil found]
  exact hx.bind fun s => rfl

theorem reports_readControlFlow (members : List (String × Json)) :
    Reports (readControlFlow members) (markViolations members) := by
  rw [readControlFlow, markViolations, ControlFlow.word]
  cases members.lookup "control_flow" with
  | none => rfl
  | some v =>
    dsimp only
    cases htruthy : v.isTruthy with
    | false => rfl
    | true =>
      by_cases hword : v = .str "Branch"
      · rw [hword]
        rfl
      · rw [if_neg (by decide), if_neg hword, if_pos ⟨rfl, hword⟩]
        rfl

/-- Texts are names. -/
theorem all_isScalar_map_str {β : Type} (f : β → String) (bs : List β) :
    (bs.map fun b => Json.str (f b)).all Json.isScalar = true := by
  rw [List.all_map, List.all_eq_true]
  exact fun b _ => rfl

theorem reports_readDependencies (members : List (String × Json)) :
    Reports (readDependencies members) (nameViolations members) := by
  rw [readDependencies, nameViolations]
  cases members.lookup "dependencies" with
  | none => rfl
  | some v =>
    cases v with
    | arr items =>
      show Reports (if items.all Json.isScalar then _ else _)
        (if ∀ n ∈ items, n.isScalar then _ else _)
      by_cases hall : ∀ n ∈ items, n.isScalar = true
      · rw [if_pos (List.all_eq_true.2 hall), if_pos hall]
        rfl
      · rw [if_neg fun h => hall (List.all_eq_true.1 h), if_neg hall]
        rfl
    | str s =>
      show Reports (if (s.toList.map _).all Json.isScalar then _ else _) []
      rw [if_pos (all_isScalar_map_str String.singleton s.toList)]
      rfl
    | obj inner =>
      have hall := all_isScalar_map_str Prod.fst inner
      show Reports (if (inner.map _).all Json.isScalar then _ else _) []
      rw [if_pos hall]
      rfl
    | _ => rfl

theorem reports_ofItems {levels : Nat} {vs : List Json}
    (h : ∀ v ∈ vs, Reports (ofJson levels v) (violations levels v)) :
    Reports (ofItems levels vs) (vs.flatMap (violations levels)) := by
  induction vs with
  | nil => rfl
  | cons v vs ih =>
    have hafter := ih fun w hw => h w (List.mem_cons_of_mem v hw)
    rw [ofItems, List.flatMap_cons]
    exact (h v List.mem_cons_self).bind fun t => hafter.map (t :: ·)

/-- Reading a value reports the first violation in it. -/
theorem reports_ofJson (levels : Nat) (d : Json) :
    Reports (ofJson levels d) (violations levels d) := by
  induction levels generalizing d with
  | zero =>
    rw [ofJson, violations]
    rfl
  | succ levels ih =>
    cases d with
    | obj members =>
      have hchildren : Reports (childrenOfMembers levels members) (childViolations levels members) := by
        rw [childrenOfMembers_eq, childViolations_eq]
        cases hvalues : childValues? members with
        | none => rfl
        | some values => exact reports_ofItems fun v _ => ih v
      rw [ofJson, violations, kindViolations]
      cases members.lookup "node_type" with
      | none => rfl
      | some kind =>
        -- the checks after the kind are made in the order in which the violations are listed
        exact hchildren.bind fun children =>
          (reports_readControlFlow members).bind fun controlFlow =>
            (reports_readDependencies members).map _
    | _ => rfl

/-! ### Values without violations -/

theorem kindViolations_eq_nil_iff (members : List (String × Json)) :
    kindViolations members = [] ↔ ∃ kind, members.lookup "node_type" = some kind := by
  rw [kindViolations, ← Option.isSome_iff_exists]
  cases (members.lookup "node_type").isSome with
  | true => simp
  | false => simp

theorem markViolations_eq_nil_iff (members : List (String × Json)) :
    markViolations members = [] ↔
      ∀ v, members.lookup "control_flow" = some v → v.isTruthy = false ∨ v = .str "Branch" := by
  rw [markViolations]
  cases members.lookup "control_flow" with
  | none => simp
  | some v =>
    by_cases htruthy : v.isTruthy = true
    · by_cases hword : v = .str "Branch"
      · simp [hword]
      · simp [htruthy, hword]
    · simp [htruthy]

theorem nameViolations_eq_nil_iff (members : List (String × Json)) :
    nameViolations members = [] ↔ ∀ v, members.lookup "dependencies" = some v →
      (∃ s, v = .str s) ∨ (∃ inner, v = .obj inner) ∨
        ∃ items, v = .arr items ∧ ∀ n ∈ items, n.isScalar = true := by
  rw [nameViolations]
  cases members.lookup "dependencies" with
  | none => simp
  | some v => cases v <;> simp

theorem childViolations_eq_list (levels : Nat) (members : List (String × Json)) :
    childViolations levels members =
      ((members.lookup "children").map (listViolations levels)).getD [] := by
  rw [childViolations_eq, childValues?]
  cases members.lookup "children" with
  | none => rfl
  | some v => exact (listViolations_eq levels v).symm

theorem childrenDepth_eq (members : List (String × Json)) :
    childrenDepth members = ((members.lookup "children").map listDepth).getD 0 := by
  induction members with
  | nil => rfl
  | cons member rest ih =>
    obtain ⟨name, v⟩ := member
    rw [childrenDepth, List.lookup_cons]
    cases hname : ("children" == name) with
    | true => rfl
    | false => exact ih

theorem lt_itemsDepth_iff {levels : Nat} (vs : List Json) :
    levels < itemsDepth vs ↔ ∃ v ∈ vs, levels < documentDepth v := by
  induction vs with
  | nil => simp [itemsDepth]
  | cons v vs ih =>
    have hmax : levels < max (documentDepth v) (itemsDepth vs) ↔
        levels < documentDepth v ∨ levels < itemsDepth vs := by omega
    simp [itemsDepth, hmax, ih]

theorem documentDepth_pos (d : Json) : 0 < documentDepth d := by
  cases d <;> simp only [documentDepth] <;> omega

/-- What counts as a child without being an object is too deep below the last level only. -/
theorem tooDeep_mem_map_iff {β : Type} {levels : Nat} (bs : List β) :
    (ReadError.tooDeep ∈ bs.map fun _ => if levels = 0 then .tooDeep else .notAnObject) ↔
      levels < if bs = [] then 0 else 1 := by
  cases bs with
  | nil => simp
  | cons b bs =>
    by_cases h : levels = 0
    · simp [h]
    · simp [h]

theorem tooDeep_not_mem_kindViolations (members : List (String × Json)) :
    .tooDeep ∉ kindViolations members := by
  rw [kindViolations]
  split <;> simp

theorem tooDeep_not_mem_markViolations (members : List (String × Json)) :
    .tooDeep ∉ markViolations members := by
  rw [markViolations]
  split
  next => simp
  next => split <;> simp

theorem tooDeep_not_mem_nameViolations (members : List (String × Json)) :
    .tooDeep ∉ nameViolations members := by
  rw [nameViolations]
  cases members.lookup "dependencies" with
  | none => simp
  | some v =>
    cases v with
    | arr items =>
      dsimp only
      split <;> simp
    | _ => simp

/-- Children are too deep for a reader if they have more levels than are left. -/
theorem tooDeep_mem_listViolations_iff {levels : Nat}
    (hitem : ∀ d, .tooDeep ∈ violations levels d ↔ levels < documentDepth d) (v : Json) :
    .tooDeep ∈ listViolations levels v ↔ levels < listDepth v := by
  cases v with
  | arr items =>
    simp only [listViolations, itemViolations_eq_flatMap, List.mem_flatMap, hitem, listDepth,
      lt_itemsDepth_iff]
  | str s =>
    rw [listViolations, listDepth, tooDeep_mem_map_iff]
    simp only [String.toList_eq_nil_iff]
  | obj inner => rw [listViolations, listDepth, tooDeep_mem_map_iff]
  | _ => simp [listViolations, listDepth]

/-- A value is too deep for a reader of so many levels if it has more. -/
theorem tooDeep_mem_violations_iff {levels : Nat} (d : Json) :
    .tooDeep ∈ violations levels d ↔ levels < documentDepth d := by
  induction levels generalizing d with
  | zero =>
    rw [violations]
    exact iff_of_true (List.mem_singleton_self _) (documentDepth_pos d)
  | succ levels ih =>
    cases d with
    | obj members =>
      have hchildren : ReadError.tooDeep ∈ childViolations levels members ↔
          levels < childrenDepth members := by
        rw [childViolations_eq_list, childrenDepth_eq]
        cases members.lookup "children" with
        | none => simp
        | some v => exact tooDeep_mem_listViolations_iff ih v
      rw [violations, documentDepth, Nat.add_lt_add_iff_right, ← hchildren]
      simp [tooDeep_not_mem_kindViolations, tooDeep_not_mem_markViolations,
        tooDeep_not_mem_nameViolations]
    | _ => simp [violations, documentDepth]

/-- Nothing is wrong with the children if the values that stand for them are empty or an array without
violations. -/
theorem childViolations_eq_nil_iff (levels : Nat) (members : List (String × Json)) :
    childViolations levels members = [] ↔
      (∀ v, members.lookup "children" = some v →
          v = .str "" ∨ v = .obj [] ∨ ∃ items, v = .arr items) ∧
        ∀ items, members.lookup "children" = some (.arr items) →
          ∀ d ∈ items, violations levels d = [] := by
  rw [childViolations_eq_list]
  cases members.lookup "children" with
  | none => simp
  | some v =>
    show listViolations levels v = [] ↔ _
    cases v with
    | arr items => simp [listViolations, itemViolations_eq_flatMap]
    | str s => simp [listViolations]
    | obj inner => simp [listViolations]
    | _ => simp [listViolations]

/-- In the object of a tree there is nothing wrong but that it may be too deep. -/
theorem IsDocument.eq_tooDeep {d : Json} (h : IsDocument (fun n => n.isScalar = true) d)
    {levels : Nat} {e : ReadError} (he : e ∈ violations levels d) : e = .tooDeep := by
  induction h generalizing levels with
  | @node members hkind hlist hchildren hmark hnames ih =>
    cases levels with
    | zero =>
      rw [violations] at he
      exact List.mem_singleton.1 he
    | succ levels =>
      rw [violations, (kindViolations_eq_nil_iff members).2 hkind,
        (markViolations_eq_nil_iff members).2 hmark, (nameViolations_eq_nil_iff members).2 hnames,
        List.nil_append, List.append_nil, List.append_nil, childViolations_eq_list] at he
      cases hlookup : members.lookup "children" with
      | none =>
        rw [hlookup] at he
        exact absurd he List.not_mem_nil
      | some v =>
        rw [hlookup] at he
        obtain rfl | rfl | ⟨items, rfl⟩ := hlist v hlookup
        · exact absurd he List.not_mem_nil
        · exact absurd he List.not_mem_nil
        · have hitems : e ∈ itemViolations levels items := he
          rw [itemViolations_eq_flatMap, List.mem_flatMap] at hitems
          obtain ⟨child, hchild, hwrong⟩ := hitems
          exact ih items hlookup child hchild hwrong

/-- There is no violation exactly in the objects of trees that are not too deep. -/
theorem violations_eq_nil_iff {levels : Nat} (d : Json) :
    violations levels d = [] ↔
      IsDocument (fun n => n.isScalar = true) d ∧ documentDepth d ≤ levels := by
  constructor
  · intro hnone
    have hdepth : documentDepth d ≤ levels := by
      refine Nat.le_of_not_lt fun hdeep => ?_
      have hmem := (tooDeep_mem_violations_iff d).2 hdeep
      rw [hnone] at hmem
      exact absurd hmem List.not_mem_nil
    refine ⟨?_, hdepth⟩
    clear hdepth
    induction levels generalizing d with
    | zero =>
      rw [violations] at hnone
      exact nomatch hnone
    | succ levels ih =>
      cases d with
      | obj members =>
        rw [violations, List.append_eq_nil_iff, List.append_eq_nil_iff, List.append_eq_nil_iff,
          kindViolations_eq_nil_iff, childViolations_eq_nil_iff, markViolations_eq_nil_iff,
          nameViolations_eq_nil_iff] at hnone
        obtain ⟨hkind, ⟨hlist, hbelow⟩, hmark, hnames⟩ := hnone
        exact .node hkind hlist (fun items h d hd => ih d (hbelow items h d hd)) hmark hnames
      | _ => exact nomatch hnone
  · rintro ⟨hdocument, hdepth⟩
    refine List.eq_nil_iff_forall_not_mem.2 fun e he => ?_
    obtain rfl := hdocument.eq_tooDeep he
    exact Nat.not_lt_of_le hdepth ((tooDeep_mem_violations_iff d).1 he)

example : violations 3 (.obj [("control_flow", .str "Loop"), ("children", .arr [.null, .obj [
      ("node_type", .str "A"), ("children", .str "ab"), ("dependencies", .null)]])]) =
    [.missingKind, .notAnObject, .notAnObject, .notAnObject, .badDependencies,
      .unknownControlFlow (.str "Loop")] := by decide +kernel

/-- The object of a chain of nodes below a first one. -/
def chain : (below : Nat) → Json
  | 0 => .obj [("node_type", .str "K")]
  | below + 1 => .obj [("node_type", .str "K"), ("children", .arr [chain below])]

end DeclSplit.Ir
