import DeclSplit.Wire.Message
import DeclSplit.Wire.Record

/-!
# Reading the wire format

The records of a message are taken one after the other, and the first fault decides.  A message that
occurs several times is filled each time; of a text that occurs several times the last counts; a
record of an unknown field, or of a known field with another wire type, is skipped.

* `Wire.readField`, `Wire.readNode` — one record and all records of a node message, filled into what is
  known of the node;
* `Wire.readRoot`, `Wire.readEnvelope` — the root in the records of an envelope;
* `Wire.overrun?` — the text that runs past the end of its message;
* `Wire.decode` — the tree of an envelope, none if it has no root;
* `Wire.Error` — the faults, with their wording.
-/

namespace DeclSplit.Wire

/-- Why bytes do not hold a tree. -/
inductive Error where
  /-- A record is not well formed. -/
  | corrupt
  /-- A kind or a name is not well-formed UTF-8. -/
  | badUtf8
  /-- The messages of the bytes are nested too deep. -/
  | tooDeep
  /-- A message has too many levels to be a tree. -/
  | tooManyLevels
  deriving DecidableEq, Repr

/-- What a reader says of a fault. -/
def Error.reason : Error → String
  | .corrupt => "Wire format was corrupt"
  | .badUtf8 => "String field had bad UTF-8"
  | .tooDeep => "Exceeded upb_DecodeOptions_MaxDepth"
  | .tooManyLevels => s!"AST nesting exceeds {maxLevels} levels"

/-- The wording of an error. -/
def Error.message : Error → String
  | .tooManyLevels => Error.reason .tooManyLevels
  | e => "Invalid AST wire data: Error parsing message with type 'ast_proto.Ast': " ++ e.reason

/-- The text of bytes in UTF-8. -/
def text? (bytes : List UInt8) : Option String :=
  String.fromUTF8? ⟨bytes.toArray⟩

/-- What stops the reader of a message. -/
inductive Stop where
  /-- A fault that is known. -/
  | fault (e : Error)
  /-- No record begins with what is left of a node message; `beyond` is what follows the message. -/
  | unreadable (left beyond : List UInt8)

/-- What stopped the reader of a message, seen from the message around it. -/
def Stop.within (after : List UInt8) : Stop → Stop
  | .fault e => .fault e
  | .unreadable left beyond => .unreadable left (beyond ++ after)

/-- How many bytes past the end of a message a text is still read, and how many zeros are taken to
follow the input. -/
def slack : Nat := 16

/-- The kind or name that begins a message's last bytes and goes on past the message.  The end of a
message is compared only once a text has been read, so that a text may run past it by the `slack`;
one that begins in the last bytes of the input may run past the input as well, into zeros. -/
def overrun? (left beyond : List UInt8) : Option (List UInt8) := do
  let input := left ++ beyond
  let readable := input ++ List.replicate (2 * slack) 0
  let (tag, rest) ← tag? readable
  guard (tag = 10 ∨ tag = 18)
  let (count, rest) ← length? rest
  let stop := readable.length - rest.length + count
  let bound := left.length + slack
  guard (stop ≤ if input.length ≤ slack then bound else min bound input.length)
  some (rest.take count)

/-- The error of what stopped a reader: a text that runs past its message counts as badly encoded
before it counts as too long. -/
def Stop.error : Stop → Error
  | .fault e => e
  | .unreadable left beyond =>
    match overrun? left beyond with
    | some text => if (text? text).isSome then .corrupt else .badUtf8
    | none => .corrupt

/-- Takes records one after the other, each with the bytes after it, and stops at the end if bytes
are left. -/
def takeRecords {σ : Type} (stop : List UInt8 → Stop)
    (take : σ → Record × List UInt8 → Except Stop σ) (start : σ)
    (rs : List (Record × List UInt8) × List UInt8) : Except Stop σ := do
  let last ← rs.1.foldlM take start
  if rs.2 = [] then .ok last else .error (stop rs.2)

/-- Reads a kind or a name. -/
def readText (bytes : List UInt8) : Except Stop String :=
  match text? bytes with
  | some s => .ok s
  | none => .error (.fault .badUtf8)

/-- Fills one record of a node message into what is known of the node; `readChild` reads the message of
a child. -/
def readField (readChild : List UInt8 → Except Stop Ast) (node : Ast) :
    Record × List UInt8 → Except Stop Ast
  | (⟨1, .bytes contents⟩, _) => do
    let kind ← readText contents
    .ok (.node ⟨kind, node.label.name⟩ node.children)
  | (⟨2, .bytes contents⟩, _) => do
    let name ← readText contents
    .ok (.node ⟨node.label.kind, name⟩ node.children)
  | (⟨3, .bytes contents⟩, after) => do
    let child ← (readChild contents).mapError (Stop.within after)
    .ok (.node node.label (node.children ++ [child]))
  | _ => .ok node

/-- Fills the records of a node message into what is known of the node; `levels` is the number of
levels that are left for the node and what is below it. -/
def readNode : (levels : Nat) → (node : Ast) → List UInt8 → Except Stop Ast
  | 0, _, _ => .error (.fault .tooDeep)
  | levels + 1, node, bytes =>
    takeRecords (.unreadable · []) (readField (readNode levels blank)) node (records levels bytes)

/-- Fills one record of an envelope into what is known of the root. -/
def readRoot (root : Option Ast) : Record × List UInt8 → Except Stop (Option Ast)
  | (⟨1, .bytes contents⟩, after) => do
    let root ← (readNode maxLevels (root.getD blank) contents).mapError (Stop.within after)
    .ok (some root)
  | _ => .ok root

/-- The message of the root in the records of an envelope, which holds no texts of its own. -/
def readEnvelope (bytes : List UInt8) : Except Stop (Option Ast) :=
  takeRecords (fun _ => .fault .corrupt) readRoot none (records maxLevels bytes)

/-- The tree of an envelope, none if it has no root. -/
def decode (bytes : List UInt8) : Except Error (Option Ast) := do
  match ← (readEnvelope bytes).mapError Stop.error with
  | none => .ok none
  | some message =>
    match toAst message with
    | some ast => .ok (some ast)
    | none => .error .tooManyLevels

end DeclSplit.Wire
