import DeclSplit.Text.Split

/-!
# Paths

A path names a file by the directories on the way to it.  In its normal form repeated and final
slashes and components of one dot are left out; components of two dots are kept, and so are two
slashes at the start, but not three.

* `Path.ofString`, `Path.toString` — the normal form of a text and its text;
* `Path.join` — a path below another;
* `Path.parent` — the directory of a path.
-/

namespace DeclSplit

/-- Where a path starts. -/
inductive Path.Root where
  /-- In the working directory. -/
  | here
  /-- At the root, written with one slash. -/
  | slash
  /-- At the root, written with two slashes. -/
  | doubleSlash
  deriving DecidableEq, Repr, Inhabited

/-- A path in its normal form. -/
structure Path where
  root : Path.Root
  components : List String
  deriving DecidableEq, Repr, Inhabited

namespace Path

/-- The slashes at the start of a path. -/
def Root.text : Root → String
  | .here => ""
  | .slash => "/"
  | .doubleSlash => "//"

/-- Where a text starts as a path. -/
def Root.ofString (text : List Char) : Root :=
  match text with
  | '/' :: '/' :: '/' :: _ => .slash
  | '/' :: '/' :: _ => .doubleSlash
  | '/' :: _ => .slash
  | _ => .here

/-- The components of a text between its slashes, without empty ones and those of one dot. -/
def componentsOf (text : List Char) : List String :=
  ((Text.splitOn '/' text).filter fun part => part ≠ [] ∧ part ≠ ['.']).map String.ofList

/-- The normal form of a text. -/
def ofString (text : String) : Path :=
  ⟨.ofString text.toList, componentsOf text.toList⟩

/-- The text of a path; the working directory is one dot. -/
def toString (p : Path) : String :=
  if p.root = .here ∧ p.components = [] then "."
  else p.root.text ++ "/".intercalate p.components

instance : ToString Path := ⟨toString⟩

/-- The path `q` as seen from the directory `p`. -/
def join (p q : Path) : Path :=
  if q.root = .here then ⟨p.root, p.components ++ q.components⟩ else q

/-- The directory of a path; a path without components is its own. -/
def parent (p : Path) : Path :=
  ⟨p.root, p.components.dropLast⟩

example : (Path.ofString "a//./b/").toString = "a/b" := by decide +kernel

end Path

end DeclSplit
