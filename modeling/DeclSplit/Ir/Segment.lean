import DeclSplit.Ir
import DeclSplit.Vocabulary

/-!
# Segments

Each declaration of a tree yields a segment, a copy of the whole subtree below it; a declaration inside
another one is in both segments.

* `Ir.segmentsWhere` — for any test of kinds;
* `Ir.segments` — for the declaration kinds of a vocabulary.
-/

namespace DeclSplit.Ir

/-- Copies of the subtrees whose kind meets the test, in pre-order. -/
def segmentsWhere {κ : Type} [Ord κ] (isDeclaration : κ → Bool) (t : Ir κ) : List (Ir κ) :=
  (t.walk.filter fun s => isDeclaration s.label.kind).map Tree.clone

/-- Copies of the subtrees of a declaration kind, in pre-order. -/
def segments (v : Vocabulary) (t : Ir String) : List (Ir String) :=
  t.segmentsWhere v.isDeclaration

end DeclSplit.Ir
