import DeclSplit.NameSet

/-!
# Kind vocabularies

The kinds of nodes that have a meaning of their own.

* `Vocabulary` — the branch kinds, the grouping kind and the declaration kinds;
* `Vocabulary.standard` — the kinds that a C parser uses.
-/

namespace DeclSplit

/-- The kinds that mark a branch, group statements or declare something.  One kind may be of
several sorts. -/
structure Vocabulary where
  branchKinds : NameSet String
  groupingKind : String
  declarationKinds : NameSet String
  deriving DecidableEq

namespace Vocabulary

/-- Whether nodes of a kind branch or loop. -/
def isBranch (v : Vocabulary) (kind : String) : Bool :=
  v.branchKinds.contains kind

/-- Whether nodes of a kind only group others. -/
def isGrouping (v : Vocabulary) (kind : String) : Bool :=
  kind == v.groupingKind

/-- Whether nodes of a kind are declarations. -/
def isDeclaration (v : Vocabulary) (kind : String) : Bool :=
  v.declarationKinds.contains kind

/-- The kinds that a C parser uses. -/
def standard : Vocabulary where
  branchKinds := .ofList ["IfStmt", "WhileStmt"]
  groupingKind := "CompoundStmt"
  declarationKinds := .ofList ["FunctionDecl", "StructDecl"]

instance : Inhabited Vocabulary := ⟨standard⟩

end Vocabulary

end DeclSplit
