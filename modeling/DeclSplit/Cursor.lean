import DeclSplit.Ast
import DeclSplit.Text.Case
import DeclSplit.Text.Split

/-!
# Cursors

The parser hands over a tree of cursors.  The kind of a cursor is named in capitals with
underscores, such as `IF_STMT`; a syntax tree names it in camel case, `IfStmt`.

* `CursorKind.label` — the kind in camel case;
* `Cursor.toAst` — the syntax tree of a tree of cursors.
-/

namespace DeclSplit

/-- The kind of a cursor: a name, which may be missing or empty, and a longer description that ends
in the name. -/
structure CursorKind where
  name : Option String
  description : String
  deriving Repr, DecidableEq, Inhabited

namespace CursorKind

/-- The name in capitals; where it is missing, what follows the last dot of the description. -/
def rawName (kind : CursorKind) : List Char :=
  match kind.name with
  | some name => if name = "" then Text.afterLast '.' kind.description.toList else name.toList
  | none => Text.afterLast '.' kind.description.toList

/-- One word in camel case.  Two words are abbreviations with a capital inside. -/
def camelWord (word : List Char) : List Char :=
  if word = ['C', 'S', 'T', 'Y', 'L', 'E'] then ['C', 'S', 't', 'y', 'l', 'e']
  else if word = ['O', 'B', 'J', 'C'] then ['O', 'b', 'j', 'C']
  else Text.capitalize word

/-- The words of a name between its underscores, without empty ones. -/
def words (name : List Char) : List (List Char) :=
  (Text.splitOn '_' name).filter fun word => !word.isEmpty

/-- A name in capitals with underscores, written in camel case. -/
def camelCase (name : List Char) : List Char :=
  (words name).flatMap camelWord

/-- The kind in camel case. -/
def label (kind : CursorKind) : String :=
  .ofList (camelCase kind.rawName)

end CursorKind

/-- What a cursor says of itself. -/
structure Cursor.Label where
  kind : CursorKind
  spelling : Option String
  deriving Repr, DecidableEq, Inhabited

/-- A tree of cursors. -/
abbrev Cursor := Tree Cursor.Label

namespace Cursor

/-- The node of a syntax tree for a cursor; a cursor without a spelling has the empty name. -/
def Label.toAst (label : Label) : Ast.Label :=
  ⟨label.kind.label, label.spelling.getD ""⟩

/-- The syntax tree of a tree of cursors, built from the leaves up. -/
def toAst (cursor : Cursor) : Ast :=
  cursor.collapse fun label children => .node label.toAst children

end Cursor

end DeclSplit
