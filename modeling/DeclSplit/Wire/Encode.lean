import DeclSplit.Wire.Message
import DeclSplit.Wire.Varint

/-!
# Writing the wire format

A tree is written as the message of its root inside an envelope.  In a node message field 1 is the
kind, field 2 the name and field 3 one child; the fields are written in this order, and an empty text
is not written at all.  In the envelope field 1 is the root.

* `Wire.encodeNode` — the bytes of a node message;
* `Wire.encode` — the bytes of the envelope.
-/

namespace DeclSplit.Wire

/-- The bytes of a text in UTF-8. -/
def utf8 (s : String) : List UInt8 :=
  s.toByteArray.data.toList

/-- The tag of a field whose contents are preceded by their length. -/
def bytesTag (field : Nat) : List UInt8 :=
  encodeVarint (8 * field + 2)

/-- A record whose contents are preceded by their length. -/
def encodeBytes (field : Nat) (contents : List UInt8) : List UInt8 :=
  bytesTag field ++ encodeVarint contents.length ++ contents

/-- A record of a text, nothing for the empty text. -/
def encodeText (field : Nat) (s : String) : List UInt8 :=
  if s = "" then [] else encodeBytes field (utf8 s)

mutual

/-- The bytes of a node message. -/
def encodeNode : Ast → List UInt8
  | .node label children =>
    encodeText 1 label.kind ++ encodeText 2 label.name ++ encodeChildren children

/-- The records of the children of a node. -/
def encodeChildren : List Ast → List UInt8
  | [] => []
  | t :: ts => encodeBytes 3 (encodeNode t) ++ encodeChildren ts

end

/-- The bytes of the envelope; the root is written even if it has no contents. -/
def encode (root : Ast) : List UInt8 :=
  encodeBytes 1 (encodeNode root)

end DeclSplit.Wire
