import DeclSplit.Yaml.Fault

/-!
# Tokens

* `Yaml.Token` — the parts that a YAML text is made of;
* `Yaml.Directive` — what is said before a document.

The start and the end of a collection that is written by indentation are tokens of their own, and so
is a key that is only known by the colon after it.
-/

namespace DeclSplit.Yaml

/-- What is said before a document. -/
inductive Directive where
  /-- The version of YAML. -/
  | version (major minor : Nat)
  /-- What a tag handle stands for. -/
  | tagHandle (handle stem : List Char)
  /-- Anything else, which has no meaning. -/
  | other
  deriving DecidableEq, Repr

/-- A part of a YAML text. -/
inductive Token where
  | directive (d : Directive)
  | documentStart
  | documentEnd
  | streamEnd
  | blockSequenceStart
  | blockMappingStart
  | blockEnd
  | flowSequenceStart
  | flowSequenceEnd
  | flowMappingStart
  | flowMappingEnd
  | blockEntry
  | flowEntry
  | key
  | value
  | alias (name : List Char)
  | anchor (name : List Char)
  /-- A tag; one that is written out in full has no handle. -/
  | tag (handle : Option (List Char)) (suffix : List Char)
  /-- A scalar; a plain one has no quotation marks and is not a block. -/
  | scalar (text : List Char) (plain : Bool)
  /-- The place where the text cannot be read on. -/
  | fault (f : Fault)
  deriving DecidableEq, Repr

end DeclSplit.Yaml
