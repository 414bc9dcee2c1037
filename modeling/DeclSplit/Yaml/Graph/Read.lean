import DeclSplit.Yaml.Graph
import DeclSplit.Yaml.Token

/-!
# From tokens to a node graph

* `Yaml.Graph.ofTokens` — the nodes of the one document that tokens hold, none if there is no
  document, or the first fault.

An empty place where a node is due counts as an empty plain scalar.
-/

namespace DeclSplit.Yaml

/-- How far tokens are read. -/
structure Reader where
  /-- The tokens that are left. -/
  tokens : List Token
  /-- The nodes so far. -/
  nodes : Array Node
  /-- The nodes that have anchors. -/
  anchors : List (List Char × Nat)
  /-- What the tag handles stand for. -/
  handles : List (List Char × List Char)

/-- A part of the reading. -/
abbrev Read := StateT Reader (Except Fault)

namespace Read

/-- What the tag handles stand for if a document does not say it. -/
def standardHandles : List (List Char × List Char) :=
  [(['!'], ['!']), (['!', '!'], Tag.stem.toList)]

/-- The next token; a fault ends the reading. -/
def peek : Read Token := do
  match (← get).tokens with
  | [] => throw .malformed
  | .fault f :: _ => throw f
  | t :: _ => return t

/-- Goes past the next token. -/
def advance : Read Unit :=
  modify fun r => { r with tokens := r.tokens.tail }

/-- Goes past the next token, which has to be the given one. -/
def expect (t : Token) : Read Unit := do
  if (← peek) = t then advance else throw .malformed

/-! ### Nodes -/

/-- Adds a node. -/
def addNode (node : Node) : Read Nat := do
  let id := (← get).nodes.size
  modify fun r => { r with nodes := r.nodes.push node }
  return id

/-- Adds an empty plain scalar. -/
def emptyNode : Read Nat :=
  addNode ⟨.null, .scalar []⟩

/-- Adds a node that has an anchor, if one is given; no two nodes have the same one. -/
def addAnchored (anchor : Option (List Char)) (node : Node) : Read Nat := do
  let id ← addNode node
  match anchor with
  | none => return id
  | some name =>
    if ((← get).anchors.lookup name).isSome then throw .malformed
    modify fun r => { r with anchors := (name, id) :: r.anchors }
    return id

/-- Gives a collection its members. -/
def fill (id : Nat) (content : Content) : Read Unit :=
  modify fun r => { r with nodes := r.nodes.modify id fun node => { node with content } }

/-- The node that has an anchor. -/
def anchored (name : List Char) : Read Nat := do
  match (← get).anchors.lookup name with
  | some id => return id
  | none => throw .malformed

/-- The anchor and the tag before a node, in either order. -/
def properties : Read (Option (List Char) × Option (Option (List Char) × List Char)) := do
  match ← peek with
  | .anchor name =>
    advance
    match ← peek with
    | .tag handle suffix =>
      advance
      return (some name, some (handle, suffix))
    | _ => return (some name, none)
  | .tag handle suffix =>
    advance
    match ← peek with
    | .anchor name =>
      advance
      return (some name, some (handle, suffix))
    | _ => return (none, some (handle, suffix))
  | _ => return (none, none)

/-- The full name of a tag. -/
def tagName (handle : Option (List Char)) (suffix : List Char) : Read (List Char) := do
  match handle with
  | none => return suffix
  | some handle =>
    match (← get).handles.lookup handle with
    | some stem => return stem ++ suffix
    | none => throw .malformed

/-- The tag of a node, unless the node itself decides it. -/
def specificTag (name : Option (List Char)) : Option Tag :=
  match name with
  | none | some ['!'] => none
  | some name => some (.ofName name)

/-- The tag of a scalar; one that is not plain and has no tag is a text. -/
def scalarTag (name : Option (List Char)) (text : List Char) (plain : Bool) : Tag :=
  match specificTag name with
  | some tag => tag
  | none => if plain || name.isSome then .ofPlain text else .str

/-- The node that is read by `read`, or an empty one if nothing stands before the next token. -/
def nodeUnless (ends : Token → Bool) (read : Read Nat) : Read Nat := do
  if ends (← peek) then emptyNode else read

/-- The value of a key, which may be left out. -/
def valueUnless (ends : Token → Bool) (read : Read Nat) : Read Nat := do
  if (← peek) = .value then
    advance
    nodeUnless ends read
  else emptyNode

/-- The comma before an entry between brackets, which the first one does not have. -/
def separator (first : Bool) : Read Unit :=
  if first then return () else expect .flowEntry

/-! ### Collections -/

/-- Whether an entry of a sequence in lines of its own is over. -/
def endsBlockItem (t : Token) : Bool :=
  t = .blockEntry || t = .blockEnd

/-- Whether a key or a value of a mapping in lines of its own is over. -/
def endsBlockField (t : Token) : Bool :=
  t = .key || t = .value || t = .blockEnd

/-- Whether an entry of a sequence in the lines of a mapping is over. -/
def endsPlainItem (t : Token) : Bool :=
  t = .blockEntry || endsBlockField t

/-- Whether a value between brackets is over. -/
def endsFlowItem (t : Token) : Bool :=
  t = .flowEntry || t = .flowSequenceEnd

/-- Whether a value between braces is over. -/
def endsFlowField (t : Token) : Bool :=
  t = .flowEntry || t = .flowMappingEnd

mutual

/-- A node.  `inLines` says whether it may be a collection in lines of its own, `inMapping` whether a
sequence may stand in the lines of the mapping around it, and `levels` how many collections there may be
from here on, one in another. -/
def node (inLines inMapping : Bool) (levels : Nat) : (steps : Nat) → Read Nat
  | 0 => throw .malformed
  | steps + 1 => do
    if levels = 0 then throw .tooDeep
    if let .alias name ← peek then
      advance
      return ← anchored name
    let (anchor, tag) ← properties
    let name ← tag.mapM fun (handle, suffix) => tagName handle suffix
    let specific := specificTag name
    match ← peek, inLines, inMapping with
    | .blockEntry, _, true =>
      let id ← addAnchored anchor ⟨.ofSequence specific, .sequence []⟩
      fill id (.sequence (← plainItems (levels - 1) steps))
      return id
    | .scalar text plain, _, _ =>
      advance
      addAnchored anchor ⟨scalarTag name text plain, .scalar text⟩
    | .flowSequenceStart, _, _ =>
      advance
      let id ← addAnchored anchor ⟨.ofSequence specific, .sequence []⟩
      fill id (.sequence (← flowItems (levels - 1) true steps))
      return id
    | .flowMappingStart, _, _ =>
      advance
      let id ← addAnchored anchor ⟨.ofMapping specific, .mapping []⟩
      fill id (.mapping (← flowFields (levels - 1) true steps))
      return id
    | .blockSequenceStart, true, _ =>
      advance
      let id ← addAnchored anchor ⟨.ofSequence specific, .sequence []⟩
      fill id (.sequence (← blockItems (levels - 1) steps))
      return id
    | .blockMappingStart, true, _ =>
      advance
      let id ← addAnchored anchor ⟨.ofMapping specific, .mapping []⟩
      fill id (.mapping (← blockFields (levels - 1) steps))
      return id
    | _, _, _ =>
      if anchor.isNone && tag.isNone then throw .malformed
      addAnchored anchor ⟨specific.getD .null, .scalar []⟩
termination_by structural steps => steps

/-- The entries of a sequence in lines of its own. -/
def blockItems (levels : Nat) : (steps : Nat) → Read (List Nat)
  | 0 => throw .malformed
  | steps + 1 => do
    match ← peek with
    | .blockEntry =>
      advance
      let item ← nodeUnless endsBlockItem (node true false levels steps)
      return item :: (← blockItems levels steps)
    | .blockEnd =>
      advance
      return []
    | _ => throw .malformed
termination_by structural steps => steps

/-- The entries of a sequence in the lines of a mapping. -/
def plainItems (levels : Nat) : (steps : Nat) → Read (List Nat)
  | 0 => throw .malformed
  | steps + 1 => do
    match ← peek with
    | .blockEntry =>
      advance
      let item ← nodeUnless endsPlainItem (node true false levels steps)
      return item :: (← plainItems levels steps)
    | _ => return []
termination_by structural steps => steps

/-- The entries of a mapping in lines of its own. -/
def blockFields (levels : Nat) : (steps : Nat) → Read (List (Nat × Nat))
  | 0 => throw .malformed
  | steps + 1 => do
    match ← peek with
    | .key =>
      advance
      let key ← nodeUnless endsBlockField (node true true levels steps)
      let value ← valueUnless endsBlockField (node true true levels steps)
      return (key, value) :: (← blockFields levels steps)
    | .blockEnd =>
      advance
      return []
    | _ => throw .malformed
termination_by structural steps => steps

/-- The entries of a sequence between brackets; a key with a value is a mapping of its own. -/
def flowItems (levels : Nat) (first : Bool) : (steps : Nat) → Read (List Nat)
  | 0 => throw .malformed
  | steps + 1 => do
    if (← peek) = .flowSequenceEnd then
      advance
      return []
    separator first
    match ← peek with
    | .key =>
      advance
      let key ← nodeUnless (fun t => t = .value || endsFlowItem t)
        (node false false (levels - 1) steps)
      let value ← valueUnless endsFlowItem (node false false (levels - 1) steps)
      let item ← addNode ⟨.map, .mapping [(key, value)]⟩
      return item :: (← flowItems levels false steps)
    | .flowSequenceEnd =>
      advance
      return []
    | _ =>
      let item ← node false false levels steps
      return item :: (← flowItems levels false steps)
termination_by structural steps => steps

/-- The entries of a mapping between braces. -/
def flowFields (levels : Nat) (first : Bool) : (steps : Nat) → Read (List (Nat × Nat))
  | 0 => throw .malformed
  | steps + 1 => do
    if (← peek) = .flowMappingEnd then
      advance
      return []
    separator first
    match ← peek with
    | .key =>
      advance
      let key ← nodeUnless (fun t => t = .value || endsFlowField t) (node false false levels steps)
      let value ← valueUnless endsFlowField (node false false levels steps)
      return (key, value) :: (← flowFields levels false steps)
    | .flowMappingEnd =>
      advance
      return []
    | _ =>
      let key ← node false false levels steps
      return (key, ← emptyNode) :: (← flowFields levels false steps)
termination_by structural steps => steps

end

/-! ### Documents -/

/-- The directives before a document: at most one version, which has to be 1.x, and at most one meaning
for each tag handle. -/
def directives (seen : Bool) : (steps : Nat) → Read Unit
  | 0 => throw .malformed
  | steps + 1 => do
    match ← peek with
    | .directive d =>
      advance
      match d with
      | .version major _ =>
        if seen || major != 1 then throw .malformed
        directives true steps
      | .tagHandle handle stem =>
        if ((← get).handles.lookup handle).isSome then throw .malformed
        modify fun r => { r with handles := (handle, stem) :: r.handles }
        directives seen steps
      | .other => directives seen steps
    | _ => return ()

/-- Whether a document is over. -/
def endsDocument (t : Token) : Bool :=
  match t with
  | .directive _ | .documentStart | .documentEnd | .streamEnd => true
  | _ => false

/-- Goes past the marks for the end of a document. -/
def skipDocumentEnds : Read Unit :=
  modify fun r => { r with tokens := r.tokens.dropWhile (· = .documentEnd) }

/-- Lets the standard tag handles stand for what they do, unless the document says otherwise. -/
def addStandardHandles : Read Unit :=
  modify fun r => { r with handles := r.handles ++ standardHandles }

/-- The end of the text, after marks for the end of a document.  Another document may not follow; what
may stand before one is still looked at. -/
def endOfText (steps : Nat) : Read Unit := do
  skipDocumentEnds
  if (← peek) = .streamEnd then return ()
  modify fun r => { r with handles := [] }
  directives false steps
  let _ ← peek
  throw .malformed

/-- The one document, with at most so many collections in one another; nothing may come after it. -/
def document (levels steps : Nat) : Read (Option Nat) := do
  let root ← match ← peek with
    | .streamEnd => return none
    | .directive _ | .documentStart =>
      directives false steps
      addStandardHandles
      expect .documentStart
      nodeUnless endsDocument (node true false levels steps)
    | _ =>
      addStandardHandles
      node true false levels steps
  endOfText steps
  return some root

end Read

/-- The nodes of the one document that tokens hold, none if there is no document.  At most so many
collections may be in one another. -/
def Graph.ofTokens (levels : Nat) (tokens : Array Token) : Except Fault (Option Graph) := do
  let (root, reader) ← (Read.document levels (2 * tokens.size + 2)).run ⟨tokens.toList, #[], [], []⟩
  return root.map (⟨reader.nodes, ·⟩)

end DeclSplit.Yaml
