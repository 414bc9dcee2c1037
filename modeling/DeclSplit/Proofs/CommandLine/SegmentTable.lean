import DeclSplit.CommandLine
import DeclSplit.Proofs.Ir.Segment

/-!
# The table of segments

The last column of the table shows how many branches there are in each segment.  A branch is counted once
for each declaration around it, also after the dependencies were resolved, since a segment that is grown
keeps its marks.

* `Ir.branchCount_expand` — a segment that is grown has as many branches;
* `CommandLine.map_getLast?_segmentRows` — the numbers in the last column;
* `CommandLine.sum_branches_eq` — their sum, and what it is an instance of.
-/

namespace DeclSplit

namespace Ir

variable {κ : Type} [Ord κ]

theorem branchCount_eq (t : Ir κ) :
    t.branchCount = t.descendants.countP (fun s => s.label.isBranch) +
      if t.label.isBranch then 1 else 0 := by
  rw [branchCount, Tree.walk_eq_preorder, Tree.preorder_eq_cons_descendants, List.countP_cons]

/-- A segment that is grown has as many branches. -/
theorem branchCount_expand [Std.TransOrd κ] (table : DependencyTable κ) (t : Ir κ) :
    (t.expand table).branchCount = t.branchCount := by
  have hdescendants : Tree.descendants (t.expand table) = Tree.descendants t := rfl
  have hmark : (t.expand table).label.isBranch = t.label.isBranch := rfl
  rw [branchCount_eq, branchCount_eq, hdescendants, hmark]

theorem map_branchCount_resolve [Std.TransOrd κ] (segments : List (Ir κ)) :
    (resolve segments).map branchCount = segments.map branchCount := by
  rw [resolve, resolveWith, List.map_map]
  exact List.map_congr_left fun s _ => branchCount_expand _ s

end Ir

namespace CommandLine

/-- The last cell of each row has the number of branches of its segment. -/
theorem map_getLast?_segmentRows (segments : List (Ir String))
    (kind name : Ir String → Console.Marked) :
    (segmentRows segments (segments.map kind) (segments.map name)).map List.getLast? =
      (segments.map Ir.branchCount).map fun n => some (.plain (toString n).toList) := by
  have hsegments : ((segments.zip ((segments.map kind).zip (segments.map name))).zipIdx.map
      fun x => x.1.1) = segments := by
    have hfst : (fun x : (Ir String × Console.Marked × Console.Marked) × Nat => x.1.1) =
        Prod.fst ∘ Prod.fst := rfl
    have hlength : segments.length ≤ ((segments.map kind).zip (segments.map name)).length := by
      simp
    rw [hfst, ← List.map_map, List.zipIdx_map_fst, List.map_fst_zip hlength]
  conv => rhs; rw [← hsegments]
  rw [segmentRows, List.map_map, List.map_map, List.map_map]
  rfl

/-- Over all segments of a tree there are as many nodes that meet a test as in the tree, when each of them
is counted once for each declaration on the way from the root to it, both ends included.  So the numbers in
the last column of the table of segments have as their sum the number of branches of the tree that was
split, counted in this way. -/
theorem sum_branches_eq :
    (∀ (κ : Type) [Ord κ] (isDeclaration : κ → Bool) (q : Ir.Label κ → Bool) (t : Ir κ),
      ((t.segmentsWhere isDeclaration).map fun s => s.walk.countP fun r => q r.label).sum =
        ((t.positionsOf q).map fun p =>
          (t.pathTo p).countP fun s => isDeclaration s.label.kind).sum) ∧
    ∀ (v : Vocabulary) (ast : Ast) (kind name : Ir String → Console.Marked),
      ∃ numbers : List Nat,
        (segmentRows (Pipeline.run v .segments ast).segments
            ((Pipeline.run v .segments ast).segments.map kind)
            ((Pipeline.run v .segments ast).segments.map name)).map List.getLast? =
          numbers.map (fun n => some (.plain (toString n).toList)) ∧
        numbers.sum = (((Pipeline.run v .segments ast).ir.positionsOf Ir.Label.isBranch).map fun p =>
          ((Pipeline.run v .segments ast).ir.pathTo p).countP fun s =>
            v.isDeclaration s.label.kind).sum := by
  constructor
  · intro κ _ isDeclaration q t
    exact Ir.sum_countP_segmentsWhere isDeclaration q t
  · intro v ast kind name
    refine ⟨(Pipeline.run v .segments ast).segments.map Ir.branchCount,
      map_getLast?_segmentRows _ kind name, ?_⟩
    show ((Ir.resolve (((Ir.build v ast).optimize v).segments v)).map Ir.branchCount).sum = _
    rw [Ir.map_branchCount_resolve]
    exact Ir.sum_countP_segmentsWhere v.isDeclaration Ir.Label.isBranch ((Ir.build v ast).optimize v)

end CommandLine

end DeclSplit
