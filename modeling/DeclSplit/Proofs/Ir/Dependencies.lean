import DeclSplit.Ir.Dependencies
import DeclSplit.Proofs.NameSet

/-!
# One hop through a table

* `Ir.lastNamed?` — the segment that counts for a name;
* `DependencyTable.get_ofSegments_eq`, `DependencyTable.get_ofSegments` — the table of segments has the
  dependencies of the last segment of each name;
* `DependencyTable.mem_reached` — what a set of names leads to in one hop;
* `Ir.expand_congr` — a segment depends on the table only at the names that it looks up;
* `Ir.mem_dependencies_expand` — the dependencies of a segment that was grown;
* `Ir.contains_dependencies_expand` — the same for names that compare as equal to one of them, for any
  comparison.
-/

namespace DeclSplit

variable {κ : Type} [Ord κ]

/-- The last segment of a name. -/
def Ir.lastNamed? (segments : List (Ir κ)) (name : κ) : Option (Ir κ) :=
  (segments.filter fun s => compare name s.name == .eq).getLast?

namespace DependencyTable

theorem get_eq (table : DependencyTable κ) (name : κ) :
    get table name = ((table.reverse.find? fun entry => compare name entry.1 == .eq).map
      Prod.snd).getD ∅ := by
  rw [get]
  split <;> simp [*]

/-- The last segment of a name decides. -/
theorem get_ofSegments_eq (segments : List (Ir κ)) (name : κ) :
    get (ofSegments segments) name = ((Ir.lastNamed? segments name).map Ir.dependencies).getD ∅ := by
  rw [get_eq, ofSegments, ← List.map_reverse, List.find?_map, Ir.lastNamed?, List.getLast?_filter,
    Option.map_map]
  rfl

theorem get_ofSegments [DecidableEq κ] [Std.LawfulEqOrd κ] (segments : List (Ir κ)) (name : κ) :
    get (ofSegments segments) name =
      (((segments.filter fun s => s.name = name).getLast?).map Ir.dependencies).getD ∅ := by
  have hsame : ∀ s : Ir κ, (compare name s.name == .eq) = decide (s.name = name) := by
    intro s
    rw [eq_comm, Bool.eq_iff_iff, decide_eq_true_iff, beq_iff_eq, Std.LawfulEqCmp.compare_eq_iff_eq,
      eq_comm]
  rw [get_ofSegments_eq, Ir.lastNamed?]
  simp only [hsame]

section Comparing

variable [Std.TransOrd κ]

/-- Names that compare as equal are looked up in the same way. -/
theorem get_congr {a b : κ} (h : compare a b = .eq) (table : DependencyTable κ) :
    get table a = get table b := by
  have hsame : ∀ c : κ, compare a c = compare b c := fun c => Std.TransCmp.congr_left h
  rw [get_eq, get_eq]
  simp only [hsame]

theorem contains_foldl_get {table : DependencyTable κ} {names : List κ} {found : NameSet κ} {x : κ} :
    (names.foldl (fun found name => found ∪ get table name) found).contains x = true ↔
      found.contains x = true ∨ ∃ name ∈ names, (get table name).contains x = true := by
  induction names generalizing found with
  | nil => simp
  | cons name names ih =>
    rw [List.foldl_cons, ih, NameSet.contains_union, or_assoc]
    simp only [List.mem_cons, exists_eq_or_imp]

theorem contains_reached {table : DependencyTable κ} {names : NameSet κ} {x : κ} :
    (reached table names).contains x = true ↔
      ∃ name, names.contains name = true ∧ (get table name).contains x = true := by
  rw [reached, contains_foldl_get, NameSet.contains_empty, or_iff_right Bool.false_ne_true]
  constructor
  · rintro ⟨name, hname, hx⟩
    exact ⟨name, NameSet.contains_iff.2 ⟨name, hname, Std.ReflCmp.compare_self⟩, hx⟩
  · rintro ⟨name, hname, hx⟩
    obtain ⟨member, hmember, hsame⟩ := NameSet.contains_iff.1 hname
    rw [get_congr hsame] at hx
    exact ⟨member, hmember, hx⟩

end Comparing

theorem foldl_get_congr [Std.TransOrd κ] {table table' : DependencyTable κ} {names : List κ}
    (h : ∀ m ∈ names, table.get m = table'.get m) (found : NameSet κ) :
    names.foldl (fun found name => found ∪ table.get name) found =
      names.foldl (fun found name => found ∪ table'.get name) found := by
  induction names generalizing found with
  | nil => rfl
  | cons m names ih =>
    rw [List.foldl_cons, List.foldl_cons, h m List.mem_cons_self,
      ih fun n hn => h n (List.mem_cons_of_mem m hn)]

variable [Std.TransOrd κ] [Std.LawfulEqOrd κ]

/-- What a set of names leads to in one hop. -/
theorem mem_reached {table : DependencyTable κ} {names : NameSet κ} {x : κ} :
    x ∈ reached table names ↔ ∃ name ∈ names, x ∈ get table name := by
  rw [← NameSet.contains_iff_mem, contains_reached]
  simp only [NameSet.contains_iff_mem]

end DependencyTable

/-- A segment is grown in the same way through two tables that agree on its dependencies. -/
theorem Ir.expand_congr [Std.TransOrd κ] {table table' : DependencyTable κ} {segment : Ir κ}
    (h : ∀ m ∈ segment.dependencies, table.get m = table'.get m) :
    segment.expand table = segment.expand table' := by
  have hreached : table.reached segment.label.dependencies =
      table'.reached segment.label.dependencies :=
    DependencyTable.foldl_get_congr h ∅
  rw [expand, expand, mapRoot, mapRoot, hreached]

/-- The dependencies of a segment that was grown are its own and those that they lead to. -/
theorem Ir.mem_dependencies_expand [Std.TransOrd κ] [Std.LawfulEqOrd κ] {table : DependencyTable κ}
    {segment : Ir κ} {x : κ} :
    x ∈ (segment.expand table).dependencies ↔
      x ∈ segment.dependencies ∨ ∃ name ∈ segment.dependencies, x ∈ table.get name := by
  show x ∈ segment.dependencies ∪ table.reached segment.dependencies ↔ _
  rw [NameSet.mem_union, DependencyTable.mem_reached]

/-- A name compares as equal to a dependency of a segment that was grown, if it does so to one of the
segment's own or to one that these lead to. -/
theorem Ir.contains_dependencies_expand [Std.TransOrd κ] {table : DependencyTable κ} {segment : Ir κ}
    {x : κ} : (segment.expand table).dependencies.contains x = true ↔
      segment.dependencies.contains x = true ∨
        ∃ name, segment.dependencies.contains name = true ∧ (table.get name).contains x = true := by
  show (segment.dependencies ∪ table.reached segment.dependencies).contains x = true ↔ _
  rw [NameSet.contains_union, DependencyTable.contains_reached]

end DeclSplit
