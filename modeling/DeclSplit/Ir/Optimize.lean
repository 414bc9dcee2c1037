import DeclSplit.Ir
import DeclSplit.Vocabulary

/-!
# Leaving out grouping nodes

A node of the grouping kind is left out with all that is below it; the root always stays, and the
dependencies of the nodes around it stay as they were.

* `Ir.optimizeWhere` — for any test of kinds;
* `Ir.optimize` — for the grouping kind of a vocabulary.
-/

namespace DeclSplit.Ir

/-- The tree without the subtrees below its root whose kind meets the test. -/
def optimizeWhere {κ : Type} [Ord κ] (isGrouping : κ → Bool) (t : Ir κ) : Ir κ :=
  t.pruneInPlace fun label => isGrouping label.kind

/-- The tree without the subtrees below its root of the grouping kind. -/
def optimize (v : Vocabulary) (t : Ir String) : Ir String :=
  t.optimizeWhere v.isGrouping

end DeclSplit.Ir
