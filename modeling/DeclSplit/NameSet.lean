/-!
# Sets of names

A finite set of names, kept as its members in ascending order, so that two sets with the same
members are equal.  The order is any total comparison of names; names that compare as equal count
as the same name, and the one that came first is kept.

* `NameSet.insert`, `NameSet.union`, `NameSet.erase`, `NameSet.ofList` — the usual operations;
* `NameSet.toList` — the members in ascending order.
-/

namespace DeclSplit

/-- A finite set of names, as its members in ascending order. -/
structure NameSet (κ : Type) [Ord κ] where
  toList : List κ
  ascending : toList.Pairwise fun a b => compare a b = .lt

namespace NameSet

variable {κ : Type} [Ord κ]

/-- The name `a` in its place in an ascending list, unless the list has it. -/
def place (a : κ) : List κ → List κ
  | [] => [a]
  | b :: bs =>
    match compare a b with
    | .lt => a :: b :: bs
    | .eq => b :: bs
    | .gt => b :: place a bs

theorem mem_place {a x : κ} {bs : List κ} (h : x ∈ place a bs) : x = a ∨ x ∈ bs := by
  induction bs with
  | nil => simp_all [place]
  | cons b bs ih =>
    simp only [place] at h
    split at h
    · simpa using h
    · exact .inr h
    · rcases List.mem_cons.1 h with rfl | h
      · simp
      · rcases ih h with rfl | h <;> simp_all

theorem place_ascending [Std.TransOrd κ] (a : κ) {bs : List κ}
    (h : bs.Pairwise fun a b => compare a b = .lt) :
    (place a bs).Pairwise fun a b => compare a b = .lt := by
  induction bs with
  | nil => simp [place]
  | cons b bs ih =>
    rw [List.pairwise_cons] at h
    simp only [place]
    split
    next hab =>
      refine List.pairwise_cons.2 ⟨fun x hx => ?_, List.pairwise_cons.2 h⟩
      rcases List.mem_cons.1 hx with rfl | hx
      · exact hab
      · exact Std.TransCmp.lt_trans hab (h.1 x hx)
    next => exact List.pairwise_cons.2 h
    next hab =>
      refine List.pairwise_cons.2 ⟨fun x hx => ?_, ih h.2⟩
      rcases mem_place hx with rfl | hx
      · exact Std.OrientedCmp.lt_of_gt hab
      · exact h.1 x hx

/-- The set without members. -/
def empty : NameSet κ := ⟨[], .nil⟩

instance : EmptyCollection (NameSet κ) := ⟨empty⟩

instance : Inhabited (NameSet κ) := ⟨empty⟩

instance : Membership κ (NameSet κ) := ⟨fun s a => a ∈ s.toList⟩

instance [DecidableEq κ] : DecidableEq (NameSet κ) := fun s t =>
  if h : s.toList = t.toList then
    .isTrue (by cases s; cases t; simp_all)
  else
    .isFalse fun e => h (e ▸ rfl)

/-- Whether the set has a member that compares as equal to `a`. -/
def contains (s : NameSet κ) (a : κ) : Bool :=
  s.toList.any fun b => compare a b == .eq

/-- The number of members. -/
def size (s : NameSet κ) : Nat :=
  s.toList.length

/-- The members that meet a condition. -/
def filter (s : NameSet κ) (keep : κ → Bool) : NameSet κ :=
  ⟨s.toList.filter keep, s.ascending.filter _⟩

/-- The set without `a`. -/
def erase (s : NameSet κ) (a : κ) : NameSet κ :=
  s.filter fun b => compare a b != .eq

/-- The members of `s` that `t` does not have. -/
def diff (s t : NameSet κ) : NameSet κ :=
  s.filter fun a => !t.contains a

variable [Std.TransOrd κ]

/-- The set with `a` as a further member. -/
def insert (s : NameSet κ) (a : κ) : NameSet κ :=
  ⟨place a s.toList, place_ascending a s.ascending⟩

/-- The set of the names in a list. -/
def ofList (names : List κ) : NameSet κ :=
  names.foldl insert ∅

/-- The names that are in one of two sets. -/
def union (s t : NameSet κ) : NameSet κ :=
  t.toList.foldl insert s

instance : Union (NameSet κ) := ⟨union⟩

/-- The names that `f` gives the members. -/
def map {κ' : Type} [Ord κ'] [Std.TransOrd κ'] (f : κ → κ') (s : NameSet κ) : NameSet κ' :=
  ofList (s.toList.map f)

end NameSet

end DeclSplit
