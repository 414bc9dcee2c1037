import DeclSplit.Yaml.Graph.Merge
import DeclSplit.Yaml.Scalar

/-!
# The value of a node graph

The nodes are checked from the outermost on, collection by collection: the members of a collection
are met before those of the collections in it, and the first fault in this order counts.  After that
each node has a value, which is built from those of its members.  Nodes may share members or hold
themselves, so a value is built to a given depth, step by step for all nodes at once.

* `Yaml.Graph.value` — the value of the outermost node, or the first fault.
-/

namespace DeclSplit.Yaml

/-- How far the nodes are checked. -/
structure Checked where
  /-- The values of the nodes met so far; those of collections are not known yet. -/
  met : Array (Option Value)
  /-- The collections whose members are still to be met, first ones first. -/
  waiting : List Nat

/-- A part of the checking. -/
abbrev CheckM := StateT Checked NodesM

namespace CheckM

/-- The node of a number. -/
def node (id : Nat) : CheckM Node :=
  NodesM.node id

/-- The text of a scalar.  A mapping with a key for its value stands for that value. -/
def scalarText : (steps : Nat) → Nat → CheckM (List Char)
  | 0, _ => throw .tooDeep
  | steps + 1, id => do
    match (← node id).content with
    | .scalar text => return text
    | .sequence _ => throw .malformed
    | .mapping entries =>
      let marked ← entries.filterM fun (key, _) => return (← node key).tag = .value
      match marked with
      | (_, value) :: _ => scalarText steps value
      | [] => throw .malformed

/-- The value of a scalar, for which so many mappings may stand.  Only the text of a scalar itself can be
read as a date. -/
def scalar (standIns id : Nat) (tag : Tag) : CheckM Value := do
  let text ← scalarText standIns id
  match tag, (← node id).content with
  | .timestamp, .mapping _ => throw .notAText
  | _, _ => scalarValue tag text

/-- Meets a node: a collection is put in the queue, and a scalar gets its value. -/
def meet (standIns id : Nat) : CheckM Unit := do
  if ((← get).met[id]?.join).isSome then return
  let tag := (← node id).tag
  if tag.isCollection then
    modify fun c => { met := c.met.setIfInBounds id (some .null), waiting := c.waiting ++ [id] }
  else
    let value ← scalar standIns id tag
    modify fun c => { c with met := c.met.setIfInBounds id (some value) }

/-- Meets the key and the value of an entry; no key is a collection. -/
def meetEntry (standIns : Nat) (entry : Nat × Nat) : CheckM Unit := do
  meet standIns entry.1
  if (← node entry.1).tag.isCollection then throw .malformed
  meet standIns entry.2

/-- Meets an entry of a sequence that stands for a mapping, which is a mapping of one entry. -/
def meetPair (standIns item : Nat) : CheckM Unit := do
  match (← node item).content with
  | .mapping [(key, value)] =>
    meet standIns key
    meet standIns value
  | _ => throw .malformed

/-- Meets the members of a collection, whose kind has to be that of its tag. -/
def meetMembers (standIns id : Nat) : CheckM Unit := do
  let node ← node id
  match node.tag, node.content with
  | .seq, .sequence items => items.forM (meet standIns)
  | .orderedMap, .sequence items | .pairs, .sequence items => items.forM (meetPair standIns)
  | .map, .mapping _ | .set, .mapping _ =>
    NodesM.flatten id
    (← NodesM.entries id).forM (meetEntry standIns)
  | _, _ => throw .malformed

/-- Meets the members of the collections in the queue, until it is empty. -/
def meetAll (standIns : Nat) : (steps : Nat) → CheckM Unit
  | 0 => return
  | steps + 1 => do
    match (← get).waiting with
    | [] => return
    | id :: waiting =>
      modify fun c => { c with waiting }
      meetMembers standIns id
      meetAll standIns steps

end CheckM

/-- The value of a node of which nothing is known but what kind of collection it is and whether it has
members. -/
def Node.outline (node : Node) : Value :=
  match node.tag, node.content with
  | .set, .mapping [] => .set []
  | .set, _ => .deepSet
  | .map, .mapping [] => .dict []
  | .map, _ => .deepDict
  | _, .sequence [] => .list []
  | _, _ => .deepList

/-- The value of a node by the values of its members. -/
def Node.value (nodes : Array Node) (values : Array Value) (node : Node) : Value :=
  let member (id : Nat) : Value := values[id]?.getD .null
  let pair (item : Nat) : Value :=
    match (nodes[item]?.getD default).content with
    | .mapping [(key, value)] => .list [member key, member value]
    | _ => .null
  match node.tag, node.content with
  | .seq, .sequence items => .list (items.map member)
  | .orderedMap, .sequence items | .pairs, .sequence items => .list (items.map pair)
  | .map, .mapping entries =>
    .ofEntries (entries.map fun entry => (member entry.1, member entry.2))
  | .set, .mapping entries => .ofMembers (entries.map fun entry => member entry.1)
  | _, _ => node.outline

/-- The values of all nodes to a depth, by the values of those that are no collections. -/
def nodeValues (nodes : Array Node) (scalars : Array (Option Value)) : (depth : Nat) → Array Value
  | 0 => nodes.mapIdx fun id node =>
    if node.tag.isCollection then node.outline else (scalars[id]?.join).getD .null
  | depth + 1 =>
    let values := nodeValues nodes scalars depth
    nodes.mapIdx fun id node =>
      if node.tag.isCollection then node.value nodes values else values[id]?.getD .null

/-- The value of the outermost node to a depth, or the first fault. -/
def Graph.value (standIns depth : Nat) (g : Graph) : Except Fault Value := do
  let check : CheckM Unit := do
    CheckM.meet standIns g.root
    CheckM.meetAll standIns (g.nodes.size + 1)
  let ((_, checked), nodes) ← (check.run ⟨.replicate g.nodes.size none, []⟩).run g.nodes
  return (nodeValues nodes checked.met depth)[g.root]?.getD .null

end DeclSplit.Yaml
