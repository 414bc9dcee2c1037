import DeclSplit.Yaml.Fault
import DeclSplit.Yaml.Graph

/-!
# Merged mappings

The value of a merge key is a mapping or a sequence of mappings.  Their entries are entries of the
mapping around the key too, where it has no entry of its own for the same key; of several mappings in
a sequence the earlier ones come first.

* `Yaml.flatten` — takes the merge keys out of a mapping and puts in the entries that they stand for.
-/

namespace DeclSplit.Yaml

/-- A part of the work on nodes. -/
abbrev NodesM := StateT (Array Node) (Except Fault)

namespace NodesM

/-- The node of a number. -/
def node (id : Nat) : NodesM Node := do
  return (← get)[id]?.getD default

/-- The entries of a mapping; a node of another kind has none. -/
def entries (id : Nat) : NodesM (List (Nat × Nat)) := do
  match (← node id).content with
  | .mapping entries => return entries
  | _ => return []

/-- Gives a mapping its entries. -/
def setEntries (id : Nat) (entries : List (Nat × Nat)) : NodesM Unit :=
  modify fun nodes => nodes.modify id fun node => { node with content := .mapping entries }

/-- The first entry with a merge key, if there is one: what is before it, its value and what is after
it. -/
def splitMerge : List (Nat × Nat) → NodesM (Option (List (Nat × Nat) × Nat × List (Nat × Nat)))
  | [] => return none
  | (key, value) :: rest => do
    if (← node key).tag = .merge then return some ([], value, rest)
    return (← splitMerge rest).map fun (before, merged, rest) => ((key, value) :: before, merged, rest)

/-- A key that marks the value of a mapping counts as a text. -/
def keepValueKey (key : Nat) : NodesM Unit :=
  modify fun nodes => nodes.modify key fun node =>
    if node.tag = .value then { node with tag := .str } else node

/-- The entries of the mappings that the value of a merge key stands for, last mapping first, once
`flatten` has been at each of them. -/
def mergedEntries (flatten : Nat → NodesM Unit) (value : Nat) : NodesM (List (Nat × Nat)) := do
  match (← node value).content with
  | .mapping _ =>
    flatten value
    entries value
  | .sequence items =>
    let parts ← items.mapM fun item => do
      match (← node item).content with
      | .mapping _ =>
        flatten item
        entries item
      | _ => throw .malformed
    return parts.reverse.flatten
  | .scalar _ => throw .malformed

/-- Takes the merge keys out of a mapping and puts the entries that they stand for, and those of
`merged`, in front of the others. -/
def flattenWith (merged : List (Nat × Nat)) : (steps : Nat) → Nat → NodesM Unit
  | 0, _ => throw .malformed
  | steps + 1, id => do
    match ← splitMerge (← entries id) with
    | none =>
      let own ← entries id
      own.forM fun (key, _) => keepValueKey key
      setEntries id (merged ++ own)
    | some (before, value, after) =>
      setEntries id (before ++ after)
      let more ← mergedEntries (flattenWith [] steps) value
      flattenWith (merged ++ more) steps id

/-- The number of entries of a node. -/
def entryCount (node : Node) : Nat :=
  match node.content with
  | .mapping entries => entries.length
  | _ => 0

/-- Takes the merge keys out of a mapping and puts in the entries that they stand for.  Each step takes
out one of them. -/
def flatten (id : Nat) : NodesM Unit := do
  let nodes ← get
  flattenWith [] (2 * nodes.foldl (fun n node => n + entryCount node) 0 + 2) id

end NodesM

end DeclSplit.Yaml
