import DeclSplit.Json
import DeclSplit.Proofs.Ir.Dependencies
import Mathlib.Algebra.Group.Nat.Defs
import Mathlib.Data.List.Chain
import Mathlib.Data.List.Forall2
import Mathlib.Logic.Function.Iterate

/-!
# Chains of dependencies

A segment that is grown again and again gains the names at the ends of chains, which start in its own
dependencies and go on in those of the last segment of each name.  How long the chains may be depends on
the table of each pass.  A table that is always taken anew has grown as much as the segments, so the
chains become twice as long; a table that was taken before the first pass adds one name.

* `Ir.Hop`, `Ir.IsChain` — one name after another, and a chain of names from a segment;
* `Ir.Reaches` — the names at the ends of chains that are not too long;
* `Ir.reaches_add` — a long chain is a short one and a chain from the segment where it ends;
* `Ir.IsGrown` — what a segment is after it was grown;
* `Ir.IsGrown.expand` — one more pass, through any table whose entries are themselves grown;
* `Ir.iterate_resolve_isGrown` — any number of passes.

Names that compare as equal count as the same name.
-/

namespace DeclSplit.Ir

variable {κ : Type} [Ord κ]

/-! ### Chains -/

section Definitions

variable (segments : List (Ir κ))

/-- The name `m` is a dependency of the last segment named `n`. -/
def Hop (n m : κ) : Prop :=
  ∃ e ∈ lastNamed? segments n, e.dependencies.contains m = true

/-- A chain of names that starts with a dependency of the segment `s` and ends with the name `m`. -/
structure IsChain (s : Ir κ) (chain : List κ) (m : κ) : Prop where
  starts : ∃ n ∈ chain.head?, s.dependencies.contains n = true
  hops : chain.IsChain (Hop segments)
  ends : chain.getLast? = some m

/-- The name `m` is at the end of a chain of at most `limit` names from the segment `s`. -/
def Reaches (s : Ir κ) (limit : Nat) (m : κ) : Prop :=
  ∃ chain, IsChain segments s chain m ∧ chain.length ≤ limit

/-- The segment `s'` is the segment `s` with the names at the ends of the chains of at most `limit`
names as its dependencies. -/
structure IsGrown (limit : Nat) (s s' : Ir κ) : Prop where
  contains_iff : ∀ m, s'.dependencies.contains m = true ↔ Reaches segments s limit m
  /-- All else is as it was. -/
  eq_mapRoot : s' = s.mapRoot fun label => { label with dependencies := s'.dependencies }

end Definitions

variable {segments : List (Ir κ)} {s s' : Ir κ} {m : κ}

theorem IsChain.ne_nil {chain : List κ} (h : IsChain segments s chain m) : chain ≠ [] := by
  rintro rfl
  exact absurd h.ends (by simp)

/-- Two chains make one if the second starts where the first one ends. -/
theorem isChain_append_iff {first last : List κ} (hfirst : first ≠ []) (hlast : last ≠ []) :
    IsChain segments s (first ++ last) m ↔
      ∃ n, IsChain segments s first n ∧ ∃ e ∈ lastNamed? segments n, IsChain segments e last m := by
  obtain ⟨n, hn⟩ : ∃ n, first.getLast? = some n := ⟨_, List.getLast?_eq_some_getLast hfirst⟩
  obtain ⟨b, hb⟩ : ∃ b, last.head? = some b := ⟨_, List.head?_eq_some_head hlast⟩
  have hstart : (first ++ last).head? = first.head? := by
    rw [List.head?_append_of_ne_nil _ hfirst]
  have hend : (first ++ last).getLast? = last.getLast? := by
    rw [List.getLast?_append_of_ne_nil _ hlast]
  constructor
  · intro h
    have hhops := List.isChain_append.1 h.hops
    obtain ⟨e, he, hdep⟩ := hhops.2.2 n hn b hb
    refine ⟨n, ⟨?_, hhops.1, hn⟩, e, he, ⟨b, hb, hdep⟩, hhops.2.1, ?_⟩
    · rw [← hstart]
      exact h.starts
    · rw [← hend]
      exact h.ends
  · rintro ⟨n', hn', e, he, hrest⟩
    refine ⟨?_, List.isChain_append.2 ⟨hn'.hops, hrest.hops, ?_⟩, ?_⟩
    · rw [hstart]
      exact hn'.starts
    · intro x hx y hy
      obtain rfl : n' = x := Option.some.inj (hn'.ends.symm.trans hx)
      obtain ⟨c, hc, hdep⟩ := hrest.starts
      obtain rfl : c = y := Option.some.inj (Eq.trans hc.symm hy)
      exact ⟨e, he, hdep⟩
    · rw [hend]
      exact hrest.ends

/-! ### The names at the ends of chains -/

/-- A chain of one name is a dependency of the segment itself. -/
theorem reaches_one : Reaches segments s 1 m ↔ s.dependencies.contains m = true := by
  constructor
  · rintro ⟨chain, h, hlength⟩
    obtain ⟨n, hn, hdep⟩ := h.starts
    match chain with
    | [] => exact absurd rfl h.ne_nil
    | [a] =>
      have ha : a = m := Option.some.inj h.ends
      have hn' : a = n := Option.some.inj hn
      rw [← ha, hn']
      exact hdep
    | a :: b :: rest =>
      simp only [List.length_cons] at hlength
      omega
  · intro hdep
    exact ⟨[m], ⟨⟨m, rfl, hdep⟩, List.isChain_singleton m, rfl⟩, by simp⟩

/-- A chain of more than `i` names is one of `i` names, and another one from the last segment of the
name where that one ends. -/
theorem reaches_add {i : Nat} (hi : 0 < i) (j : Nat) :
    Reaches segments s (i + j) m ↔
      Reaches segments s i m ∨
        ∃ n, Reaches segments s i n ∧ ∃ e ∈ lastNamed? segments n, Reaches segments e j m := by
  constructor
  · rintro ⟨chain, h, hlength⟩
    by_cases hshort : chain.length ≤ i
    · exact .inl ⟨chain, h, hshort⟩
    · have hfirst : chain.take i ≠ [] := by
        intro hnil
        have := congrArg List.length hnil
        simp only [List.length_take, List.length_nil] at this
        omega
      have hlast : chain.drop i ≠ [] := by
        intro hnil
        have := congrArg List.length hnil
        simp only [List.length_drop, List.length_nil] at this
        omega
      rw [← List.take_append_drop i chain, isChain_append_iff hfirst hlast] at h
      obtain ⟨n, hn, e, he, hrest⟩ := h
      refine .inr ⟨n, ⟨_, hn, ?_⟩, e, he, _, hrest, ?_⟩
      · simp only [List.length_take]
        omega
      · simp only [List.length_drop]
        omega
  · rintro (⟨chain, h, hlength⟩ | ⟨n, ⟨first, hfirst, hi'⟩, e, he, last, hlast, hj⟩)
    · exact ⟨chain, h, by omega⟩
    · refine ⟨first ++ last, ?_, ?_⟩
      · exact (isChain_append_iff hfirst.ne_nil hlast.ne_nil).2 ⟨n, hfirst, e, he, hlast⟩
      · rw [List.length_append]
        omega

/-! ### One pass -/

theorem isGrown_one (s : Ir κ) : IsGrown segments 1 s s := by
  refine ⟨fun m => reaches_one.symm, ?_⟩
  cases s with
  | node label children => rfl

theorem IsGrown.name_eq {limit : Nat} (h : IsGrown segments limit s s') : s'.name = s.name := by
  rw [h.eq_mapRoot]
  rfl

/-- The table of segments that were grown leads along the chains by which they were grown. -/
theorem contains_get_ofSegments_map {g : Ir κ → Ir κ} {j : Nat}
    (hg : ∀ s, IsGrown segments j s (g s)) (n m : κ) :
    ((DependencyTable.ofSegments (segments.map g)).get n).contains m = true ↔
      ∃ e ∈ lastNamed? segments n, Reaches segments e j m := by
  have hlast : lastNamed? (segments.map g) n = (lastNamed? segments n).map g := by
    have hname : ∀ s, (g s).name = s.name := fun s => (hg s).name_eq
    rw [lastNamed?, List.filter_map, List.getLast?_map, lastNamed?]
    simp only [Function.comp_def, hname]
  rw [DependencyTable.get_ofSegments_eq, hlast]
  cases lastNamed? segments n with
  | none => simp
  | some e => simpa using (hg e).contains_iff m

variable [Std.TransOrd κ]

/-- A segment that was grown is grown once more.  The chains become longer by the length of those that
the table leads along. -/
theorem IsGrown.expand {table : DependencyTable κ} {i j : Nat} (hi : 0 < i)
    (h : IsGrown segments i s s')
    (htable : ∀ n m, (table.get n).contains m = true ↔
      ∃ e ∈ lastNamed? segments n, Reaches segments e j m) :
    IsGrown segments (i + j) s (s'.expand table) := by
  constructor
  · intro m
    rw [contains_dependencies_expand, reaches_add hi]
    simp only [h.contains_iff, htable]
  · rw [h.eq_mapRoot]
    rfl

/-! ### Any number of passes -/

theorem exists_iterate_resolve (segments : List (Ir κ)) (k : Nat) :
    ∃ g, resolve^[k] segments = segments.map g ∧ ∀ s, IsGrown segments (2 ^ k) s (g s) := by
  induction k with
  | zero => exact ⟨id, (List.map_id segments).symm, isGrown_one⟩
  | succ k ih =>
    obtain ⟨g, hrun, hg⟩ := ih
    refine ⟨fun s => (g s).expand (.ofSegments (segments.map g)), ?_, fun s => ?_⟩
    · rw [Function.iterate_succ_apply', hrun, resolve, resolveWith, List.map_map]
      rfl
    · have hgrown := (hg s).expand (Nat.two_pow_pos k) (contains_get_ofSegments_map hg)
      rw [Nat.pow_succ, Nat.mul_two]
      exact hgrown

theorem exists_iterate_resolveWith (segments : List (Ir κ)) (k : Nat) :
    ∃ g, (resolveWith (.ofSegments segments))^[k] segments = segments.map g ∧
      ∀ s, IsGrown segments (k + 1) s (g s) := by
  induction k with
  | zero => exact ⟨id, (List.map_id segments).symm, isGrown_one⟩
  | succ k ih =>
    obtain ⟨g, hrun, hg⟩ := ih
    refine ⟨fun s => (g s).expand (.ofSegments segments), ?_, fun s => ?_⟩
    · rw [Function.iterate_succ_apply', hrun, resolveWith, List.map_map]
      rfl
    · have hone : ∀ s, IsGrown segments 1 s (id s) := isGrown_one
      have htable := contains_get_ofSegments_map hone
      rw [List.map_id] at htable
      exact (hg s).expand (Nat.succ_pos k) htable

/-- After `k` passes that each take their own table, a segment depends on the names at the ends of the
chains of at most `2 ^ k` names; after `k` passes with the table that was taken before the first one, on
those of at most `k + 1` names.  Nothing else in a segment changes. -/
theorem iterate_resolve_isGrown (segments : List (Ir κ)) (k : Nat) :
    List.Forall₂ (IsGrown segments (2 ^ k)) segments (resolve^[k] segments) ∧
      List.Forall₂ (IsGrown segments (k + 1)) segments
        ((resolveWith (.ofSegments segments))^[k] segments) := by
  obtain ⟨g, hrun, hg⟩ := exists_iterate_resolve segments k
  obtain ⟨g', hrun', hg'⟩ := exists_iterate_resolveWith segments k
  rw [hrun, hrun', List.forall₂_map_right_iff, List.forall₂_map_right_iff, List.forall₂_same,
    List.forall₂_same]
  exact ⟨fun s _ => hg s, fun s _ => hg' s⟩

/-- Two passes over a cycle through the names `f`, `g`, `1` and `h`, where the segment of `1` is named
`true` and the first segment of `g` does not count.  With a table for each pass `f` gains what `h` depends
on, four names away; with the first table it gains `h` only. -/
theorem iterate_resolve_isGrown_cycle :
    let segment : Json → List Json → Ir Json := fun name names =>
      .node ⟨.str "FunctionDecl", name, none, .ofList names⟩ []
    let segments := [segment (.str "f") [.str "f", .str "g"], segment (.str "g") [.str "x"],
      segment (.str "g") [.int 1], segment (.bool true) [.str "h"],
      segment (.str "h") [.str "f", .str "k"]]
    (List.Forall₂ (IsGrown segments (2 ^ 2)) segments (resolve^[2] segments) ∧
      List.Forall₂ (IsGrown segments (2 + 1)) segments
        ((resolveWith (.ofSegments segments))^[2] segments)) ∧
    (resolve^[2] segments).head?.map (fun s => s.dependencies.toList) =
      some [.int 1, .str "f", .str "g", .str "h", .str "k"] ∧
    ((resolveWith (.ofSegments segments))^[2] segments).head?.map (fun s => s.dependencies.toList) =
      some [.int 1, .str "f", .str "g", .str "h"] := by
  intro segment segments
  exact ⟨iterate_resolve_isGrown segments 2, by decide +kernel, by decide +kernel⟩

end DeclSplit.Ir
