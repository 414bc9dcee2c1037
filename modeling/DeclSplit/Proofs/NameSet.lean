import DeclSplit.NameSet

/-!
# Members of sets of names

* `NameSet.mem_ofList`, `NameSet.mem_union`, `NameSet.mem_map` — the members of what the operations make,
  where only equal names compare as equal;
* `NameSet.contains_insert`, `NameSet.contains_union` — the same for names that compare as equal to a
  member, for any comparison;
* `NameSet.ext_mem` — sets with the same members are equal;
* `NameSet.toList_ofList`, `NameSet.toList_map` — an ascending list is the list of its own set.
-/

namespace DeclSplit.NameSet

variable {κ : Type} [Ord κ]

theorem ext_toList {s t : NameSet κ} (h : s.toList = t.toList) : s = t := by
  cases s; cases t; cases h; rfl

@[simp] theorem toList_empty : (∅ : NameSet κ).toList = [] := rfl

@[simp] theorem not_mem_empty (x : κ) : x ∉ (∅ : NameSet κ) := List.not_mem_nil

variable [Std.TransOrd κ]

@[simp] theorem toList_insert (s : NameSet κ) (a : κ) : (s.insert a).toList = place a s.toList := rfl

/-! ### Ascending lists -/

/-- A name after all others goes to the end. -/
theorem place_eq_append {a : κ} {bs : List κ} (h : ∀ b ∈ bs, compare b a = .lt) :
    place a bs = bs ++ [a] := by
  induction bs with
  | nil => rfl
  | cons b bs ih =>
    have hb : compare a b = .gt := Std.OrientedCmp.gt_of_lt (h b List.mem_cons_self)
    rw [place, hb]
    dsimp only
    rw [ih fun c hc => h c (List.mem_cons_of_mem b hc), List.cons_append]

theorem toList_foldl_insert {s : NameSet κ} {names : List κ}
    (h : (s.toList ++ names).Pairwise fun a b => compare a b = .lt) :
    (names.foldl insert s).toList = s.toList ++ names := by
  induction names generalizing s with
  | nil => rw [List.foldl_nil, List.append_nil]
  | cons a names ih =>
    have hlast : (s.insert a).toList = s.toList ++ [a] := by
      rw [toList_insert, place_eq_append]
      intro b hb
      exact (List.pairwise_append.1 h).2.2 b hb a List.mem_cons_self
    have hall : s.toList ++ a :: names = (s.insert a).toList ++ names := by
      rw [hlast, List.append_assoc, List.singleton_append]
    rw [hall] at h ⊢
    exact ih h

/-- An ascending list is the list of its own set. -/
theorem toList_ofList {names : List κ} (h : names.Pairwise fun a b => compare a b = .lt) :
    (ofList names).toList = names := by
  rw [ofList, toList_foldl_insert]
  · rw [toList_empty, List.nil_append]
  · rw [toList_empty, List.nil_append]
    exact h

/-- A function that keeps the order gives the names in the order of the members. -/
theorem toList_map {κ' : Type} [Ord κ'] [Std.TransOrd κ'] {f : κ' → κ}
    (h : ∀ a b, compare (f a) (f b) = compare a b) (s : NameSet κ') :
    (s.map f).toList = s.toList.map f := by
  have hascending : (s.toList.map f).Pairwise fun a b => compare a b = .lt := by
    rw [List.pairwise_map]
    refine s.ascending.imp fun {a b} hab => ?_
    rw [h, hab]
  rw [map, toList_ofList hascending]

theorem mem_of_mem_foldl_insert {s : NameSet κ} {names : List κ} {x : κ}
    (h : x ∈ names.foldl insert s) : x ∈ s ∨ x ∈ names := by
  induction names generalizing s with
  | nil => exact .inl h
  | cons a names ih =>
    rcases ih h with hx | hx
    · rcases mem_place hx with rfl | hx
      · exact .inr List.mem_cons_self
      · exact .inl hx
    · exact .inr (List.mem_cons_of_mem a hx)

/-- The members of the set of a list are in the list, for any comparison. -/
theorem mem_of_mem_ofList {names : List κ} {x : κ} (h : x ∈ ofList names) : x ∈ names :=
  (mem_of_mem_foldl_insert h).resolve_left (not_mem_empty x)

/-! ### Names that compare as equal to a member -/

omit [Std.TransOrd κ] in
@[simp] theorem contains_empty (a : κ) : (∅ : NameSet κ).contains a = false := rfl

omit [Std.TransOrd κ] in
theorem contains_iff {s : NameSet κ} {a : κ} :
    s.contains a = true ↔ ∃ b ∈ s, compare a b = .eq := by
  simp only [contains, List.any_eq_true, beq_iff_eq]
  rfl

theorem exists_mem_place_iff {a x : κ} {bs : List κ} :
    (∃ b ∈ place a bs, compare x b = .eq) ↔ compare x a = .eq ∨ ∃ b ∈ bs, compare x b = .eq := by
  induction bs with
  | nil => simp [place]
  | cons b bs ih =>
    rw [place]
    split
    next => simp only [List.mem_cons, exists_eq_or_imp]
    next hab =>
      -- `b` is kept in the place of `a`, and what is equal to one of them is equal to both
      have hsame : compare x a = compare x b := Std.TransCmp.congr_right hab
      simp only [List.mem_cons, exists_eq_or_imp, hsame, or_self_left]
    next => simp only [List.mem_cons, exists_eq_or_imp, ih, or_left_comm]

@[simp] theorem contains_insert {s : NameSet κ} {a x : κ} :
    (s.insert a).contains x = true ↔ compare x a = .eq ∨ s.contains x = true := by
  rw [contains_iff, contains_iff]
  exact exists_mem_place_iff

theorem contains_foldl_insert {s : NameSet κ} {names : List κ} {x : κ} :
    (names.foldl insert s).contains x = true ↔
      s.contains x = true ∨ ∃ a ∈ names, compare x a = .eq := by
  induction names generalizing s with
  | nil => simp
  | cons a names ih =>
    rw [List.foldl_cons, ih, contains_insert]
    simp only [List.mem_cons, exists_eq_or_imp]
    rw [or_assoc, or_left_comm]

@[simp] theorem contains_union {s t : NameSet κ} {x : κ} :
    (s ∪ t).contains x = true ↔ s.contains x = true ∨ t.contains x = true := by
  rw [contains_iff (s := t)]
  exact contains_foldl_insert

/-! ### Equality -/

theorem nodup_toList (s : NameSet κ) : s.toList.Nodup := by
  refine s.ascending.imp ?_
  rintro a b hab rfl
  have hself : compare a a = .eq := Std.ReflCmp.compare_self
  rw [hself] at hab
  exact absurd hab (by decide)

/-- Sets with the same members are equal. -/
theorem ext_mem {s t : NameSet κ} (h : ∀ x, x ∈ s ↔ x ∈ t) : s = t := by
  have hperm : s.toList.Perm t.toList :=
    (List.perm_ext_iff_of_nodup s.nodup_toList t.nodup_toList).2 h
  refine ext_toList (hperm.eq_of_pairwise ?_ s.ascending t.ascending)
  intro a b _ _ hab hba
  rw [Std.OrientedCmp.gt_of_lt hba] at hab
  exact absurd hab (by decide)

/-! ### Members -/

variable [Std.LawfulEqOrd κ]

omit [Std.TransOrd κ] in
/-- Only the members compare as equal to a member. -/
theorem contains_iff_mem {s : NameSet κ} {a : κ} : s.contains a = true ↔ a ∈ s := by
  rw [contains_iff]
  simp only [Std.LawfulEqCmp.compare_eq_iff_eq, exists_eq_right']

@[simp] theorem mem_insert {s : NameSet κ} {a x : κ} : x ∈ s.insert a ↔ x = a ∨ x ∈ s := by
  rw [← contains_iff_mem, contains_insert, contains_iff_mem, Std.LawfulEqCmp.compare_eq_iff_eq]

@[simp] theorem mem_ofList {names : List κ} {x : κ} : x ∈ ofList names ↔ x ∈ names := by
  rw [← contains_iff_mem, ofList, contains_foldl_insert, contains_empty,
    or_iff_right Bool.false_ne_true]
  simp only [Std.LawfulEqCmp.compare_eq_iff_eq, exists_eq_right']

@[simp] theorem mem_union {s t : NameSet κ} {x : κ} : x ∈ s ∪ t ↔ x ∈ s ∨ x ∈ t := by
  rw [← contains_iff_mem, contains_union, contains_iff_mem, contains_iff_mem]

/-! ### Images -/

variable {κ' : Type} [Ord κ']

@[simp] theorem mem_map {f : κ' → κ} {s : NameSet κ'} {x : κ} : x ∈ s.map f ↔ ∃ a ∈ s, f a = x := by
  rw [map, mem_ofList, List.mem_map]
  rfl

variable [Std.TransOrd κ'] [Std.LawfulEqOrd κ']

theorem map_ofList (f : κ' → κ) (names : List κ') :
    (ofList names).map f = ofList (names.map f) := by
  refine ext_mem fun x => ?_
  simp only [mem_map, mem_ofList, List.mem_map]

theorem map_union (f : κ' → κ) (s t : NameSet κ') : (s ∪ t).map f = s.map f ∪ t.map f := by
  refine ext_mem fun x => ?_
  simp only [mem_map, mem_union, or_and_right, exists_or]

end DeclSplit.NameSet
