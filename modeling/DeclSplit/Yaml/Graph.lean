import DeclSplit.Yaml.Tag

/-!
# Node graphs

The nodes of a document have numbers, and a collection holds the numbers of its members.  An alias is
the number of the node it stands for, so a collection may hold itself.

* `Yaml.Node` — a node: its tag and what it holds;
* `Yaml.Graph` — the nodes of a document.
-/

namespace DeclSplit.Yaml

/-- What a node holds. -/
inductive Content where
  | scalar (text : List Char)
  | sequence (items : List Nat)
  | mapping (entries : List (Nat × Nat))
  deriving DecidableEq, Repr, Inhabited

/-- A node. -/
structure Node where
  tag : Tag
  content : Content
  deriving DecidableEq, Repr

instance : Inhabited Node := ⟨⟨.null, .scalar []⟩⟩

/-- The nodes of a document; `root` is the number of the outermost one. -/
structure Graph where
  nodes : Array Node
  root : Nat
  deriving Repr

/-- The tag of a sequence whose tag is given or left open. -/
def Tag.ofSequence (tag : Option Tag) : Tag :=
  tag.getD .seq

/-- The tag of a mapping whose tag is given or left open. -/
def Tag.ofMapping (tag : Option Tag) : Tag :=
  tag.getD .map

end DeclSplit.Yaml
