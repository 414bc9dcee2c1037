import DeclSplit.Proofs.Ir.Dependencies
import Mathlib.Data.List.FinRange

/-!
# The order of the segments

It makes no difference in which order segments stand when they are grown, nor in which order they are
grown one after the other where they stand.  Only the table can tell two orders apart, and only by which
segment of a name comes last.

* `reorder` — the items of a list in another order;
* `filter_reorder` — what passes a test is in its old order, if the new order leaves it so;
* `Ir.KeepsNamesakes` — an order that leaves segments of one name in their order;
* `Ir.lastNamed?_reorder` — the same segment counts for each name;
* `Ir.growAt` — one segment grown where it stands;
* `Ir.foldl_growAt_eq_resolveWith` — one after the other in any order is all at once;
* `Ir.resolve_reorder` — every segment becomes what it becomes in the old order.
-/

namespace DeclSplit

/-! ### Other orders -/

section Reorder

variable {α : Type} {n : Nat} (σ : Equiv.Perm (Fin n))

/-- The items of a list in another order: at place `i` stands the item that was at place `σ i`. -/
def reorder (xs : List α) (h : xs.length = n) : List α :=
  List.ofFn fun i => xs.get ((σ i).cast h.symm)

theorem map_reorder {β : Type} (f : α → β) (xs : List α) (h : xs.length = n)
    (h' : (xs.map f).length = n) : (reorder σ xs h).map f = reorder σ (xs.map f) h' := by
  rw [reorder, reorder, List.map_ofFn]
  congr 1
  funext i
  simp

/-- What passes a test is in its old order, if the new order leaves it so. -/
theorem filter_reorder (p : α → Bool) (xs : List α) (h : xs.length = n)
    (hkeeps : ∀ i j, i < j → p (xs.get ((σ i).cast h.symm)) = true →
      p (xs.get ((σ j).cast h.symm)) = true → σ i < σ j) :
    (reorder σ xs h).filter p = xs.filter p := by
  subst h
  have hold : (List.finRange xs.length).map xs.get = xs := List.map_get_finRange xs
  have hnew : reorder σ xs rfl = ((List.finRange xs.length).map σ).map xs.get := by
    rw [reorder, List.ofFn_eq_map, List.map_map]
    rfl
  -- both sides list the same places, and both of them from left to right
  have hplaces : ((List.finRange xs.length).map σ).filter (p ∘ xs.get) =
      (List.finRange xs.length).filter (p ∘ xs.get) := by
    have hperm := (Equiv.Perm.map_finRange_perm σ).filter (p ∘ xs.get)
    have hleft : (((List.finRange xs.length).map σ).filter (p ∘ xs.get)).Pairwise (· < ·) := by
      rw [List.pairwise_filter, List.pairwise_map]
      exact (List.pairwise_lt_finRange xs.length).imp fun {i j} hij hi hj => hkeeps i j hij hi hj
    have hright : ((List.finRange xs.length).filter (p ∘ xs.get)).Pairwise (· < ·) :=
      (List.pairwise_lt_finRange xs.length).filter _
    refine hperm.eq_of_pairwise ?_ hleft hright
    intro i j _ _ hij hji
    exact absurd hij (Nat.lt_asymm hji)
  rw [hnew, List.filter_map, hplaces, ← List.filter_map, hold]

end Reorder

/-- A list that is changed at the places of `order`, none of them twice, is changed once at each. -/
theorem getElem?_foldl_modify {α : Type} (f : α → α) {order : List Nat} (h : order.Nodup)
    (xs : List α) (j : Nat) :
    (order.foldl (fun xs i => xs.modify i f) xs)[j]? = if j ∈ order then xs[j]?.map f else xs[j]? := by
  induction order generalizing xs with
  | nil => simp
  | cons i order ih =>
    have hnodup := List.nodup_cons.1 h
    rw [List.foldl_cons, ih hnodup.2, List.getElem?_modify]
    by_cases hj : i = j
    · have hlater : j ∉ order := hj ▸ hnodup.1
      simp [hj, hlater]
    · have hother : j ≠ i := fun h => hj h.symm
      simp [hj, hother]

namespace Ir

variable {κ : Type} [Ord κ] [Std.TransOrd κ]

/-! ### The table -/

/-- Segments whose names compare as equal are in the new order as they were in the old one. -/
def KeepsNamesakes (segments : List (Ir κ)) (σ : Equiv.Perm (Fin segments.length)) : Prop :=
  ∀ i j, i < j → compare (segments.get (σ i)).name (segments.get (σ j)).name = .eq → σ i < σ j

variable {segments : List (Ir κ)} {σ : Equiv.Perm (Fin segments.length)}

theorem lastNamed?_reorder (h : KeepsNamesakes segments σ) (name : κ) :
    lastNamed? (reorder σ segments rfl) name = lastNamed? segments name := by
  rw [lastNamed?, lastNamed?, filter_reorder]
  intro i j hij hi hj
  rw [beq_iff_eq] at hi hj
  have hsame : compare (segments.get (σ i)).name (segments.get (σ j)).name = .eq :=
    Std.TransCmp.eq_trans (Std.OrientedCmp.eq_symm hi) hj
  exact h i j hij hsame

theorem get_ofSegments_reorder (h : KeepsNamesakes segments σ) (name : κ) :
    DependencyTable.get (.ofSegments (reorder σ segments rfl)) name =
      DependencyTable.get (.ofSegments segments) name := by
  rw [DependencyTable.get_ofSegments_eq, DependencyTable.get_ofSegments_eq, lastNamed?_reorder h]

/-! ### One segment after the other -/

/-- The segments with the one at place `i` grown where it stands. -/
def growAt (table : DependencyTable κ) (segments : List (Ir κ)) (i : Nat) : List (Ir κ) :=
  segments.modify i (expand table)

/-- It makes no difference in which order the segments are grown where they stand. -/
theorem foldl_growAt_eq_resolveWith (table : DependencyTable κ) (segments : List (Ir κ))
    {order : List Nat} (h : order.Perm (List.range segments.length)) :
    order.foldl (growAt table) segments = resolveWith table segments := by
  have hnodup : order.Nodup := h.nodup_iff.2 List.nodup_range
  refine List.ext_getElem? fun j => ?_
  have hplace := getElem?_foldl_modify (expand table) hnodup segments j
  rw [resolveWith, List.getElem?_map]
  by_cases hj : j < segments.length
  · have hmem : j ∈ order := h.mem_iff.2 (List.mem_range.2 hj)
    rw [if_pos hmem] at hplace
    exact hplace
  · have hnone : segments[j]? = none := List.getElem?_eq_none (Nat.le_of_not_lt hj)
    rw [hnone, Option.map_none, ite_self] at hplace
    rw [hnone]
    exact hplace

theorem length_resolveWith (table : DependencyTable κ) (segments : List (Ir κ)) :
    (resolveWith table segments).length = segments.length :=
  List.length_map _

theorem resolveWith_reorder (table : DependencyTable κ) (segments : List (Ir κ))
    (σ : Equiv.Perm (Fin segments.length)) :
    resolveWith table (reorder σ segments rfl) =
      reorder σ (resolveWith table segments) (length_resolveWith table segments) :=
  map_reorder σ (expand table) segments rfl _

/-- In another order every segment becomes what it becomes in the old one: through the segments' own
table if segments of one name stay in their order, and through any other table in every order.  Segments
that stay where they are can be grown one after the other in every order. -/
theorem resolve_reorder (segments : List (Ir κ)) (σ : Equiv.Perm (Fin segments.length)) :
    (KeepsNamesakes segments σ →
      resolve (reorder σ segments rfl) =
        reorder σ (resolve segments) (length_resolveWith _ segments)) ∧
    ∀ table : DependencyTable κ,
      resolveWith table (reorder σ segments rfl) =
        reorder σ (resolveWith table segments) (length_resolveWith table segments) ∧
      (List.ofFn fun i => (σ i).val).foldl (growAt table) segments = resolveWith table segments := by
  refine ⟨fun h => ?_, fun table => ⟨resolveWith_reorder table segments σ, ?_⟩⟩
  · have htable : resolve (reorder σ segments rfl) =
        resolveWith (.ofSegments segments) (reorder σ segments rfl) := by
      rw [resolve, resolveWith, resolveWith]
      refine List.map_congr_left fun s _ => expand_congr fun name _ => ?_
      exact get_ofSegments_reorder h name
    rw [htable, resolveWith_reorder]
    rfl
  · refine foldl_growAt_eq_resolveWith table segments ?_
    rw [List.ofFn_eq_map, ← List.map_coe_finRange_eq_range]
    have hperm := (Equiv.Perm.map_finRange_perm σ).map Fin.val
    rw [List.map_map] at hperm
    exact hperm

/-- Two functions `f`, each moved past its neighbour: the second one still is the last of that name, so
`g` gains `y` in both orders. -/
theorem resolve_reorder_two_functions :
    let segment : String → List String → Ir String := fun name names =>
      .node ⟨"FunctionDecl", name, none, .ofList names⟩ []
    let segments := [segment "f" ["x"], segment "g" ["f", "g"], segment "f" ["y"], segment "h" ["g"]]
    let σ : Equiv.Perm (Fin segments.length) :=
      (Equiv.swap (0 : Fin 4) (1 : Fin 4)).trans (Equiv.swap (2 : Fin 4) (3 : Fin 4))
    KeepsNamesakes segments σ ∧
      (resolve (reorder σ segments rfl) =
          reorder σ (resolve segments) (length_resolveWith _ segments) ∧
        ∀ table : DependencyTable String,
          resolveWith table (reorder σ segments rfl) =
            reorder σ (resolveWith table segments) (length_resolveWith table segments) ∧
          (List.ofFn fun i => (σ i).val).foldl (growAt table) segments = resolveWith table segments) ∧
      (resolve (reorder σ segments rfl)).map (fun s => (s.name, s.dependencies.toList)) =
        [("g", ["f", "g", "y"]), ("f", ["x"]), ("h", ["f", "g"]), ("f", ["y"])] := by
  intro segment segments σ
  have hkeeps : KeepsNamesakes segments σ := by
    show ∀ i j : Fin 4, i < j → _ → _
    decide +kernel
  have hall := resolve_reorder segments σ
  exact ⟨hkeeps, ⟨hall.1 hkeeps, hall.2⟩, by decide +kernel⟩

end Ir

end DeclSplit
