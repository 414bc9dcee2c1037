import DeclSplit.Ir
import DeclSplit.Json.Inspect

/-!
# Trees as documents

A tree of the intermediate representation is written as a JSON object with the members `node_type`,
`name`, `children`, `control_flow` and `dependencies`.  Reading is lenient: all members but the
first may be missing, kinds and names may be any values, and whatever has contents may stand for a
list.  Reading calls itself for every child, so it gets only so many levels deep.  Writing needs no
recursion: the object of a node stands in its place from the start, and gets its children when the turn
of the node comes.

* `Ir.toJson` — the object of a tree, made node by node from a stack;
* `Ir.ofJson` — the tree of an object, or the first fault in it;
* `Ir.ReadError` — the faults, with their wording.
-/

namespace DeclSplit.Ir

/-! ### Writing -/

/-- The object of a node, given those of its children. -/
def nodeToJson {κ : Type} [Ord κ] (value : κ → Json) (label : Label κ) (children : List Json) :
    Json :=
  .obj
    [("node_type", value label.kind),
     ("name", value label.name),
     ("children", .arr children),
     ("control_flow",
       match label.controlFlow with
       | some mark => .str mark.word
       | none => .null),
     ("dependencies", .arr (label.dependencies.toList.map value))]

/-- The objects of the children in the object of a node. -/
def childDocuments (document : Json) : List Json :=
  match document.member? "children" with
  | some (.arr items) => items
  | _ => []

/-- The object of a node with the objects of its children changed by `f`. -/
def modifyChildren (f : List Json → List Json) : Json → Json
  | .obj members => .obj (members.map fun (name, v) =>
      if name = "children" then
        match v with
        | .arr items => (name, .arr (f items))
        | v => (name, v)
      else (name, v))
  | document => document

/-- The object of the node at a position, in the object of a tree. -/
def documentAt? (document : Json) : List Nat → Option Json
  | [] => some document
  | i :: p => (childDocuments document)[i]?.bind (documentAt? · p)

/-- The object of a tree with the object of the node at a position changed by `f`. -/
def modifyDocumentAt (f : Json → Json) : List Nat → Json → Json
  | [], document => f document
  | i :: p, document => modifyChildren (·.modify i (modifyDocumentAt f p)) document

/-- Gives the object of a node one more object for each child of the node, none of which has children
itself. -/
def writeChildren {κ : Type} [Ord κ] (value : κ → Json) (t : Ir κ) : Json → Json :=
  modifyChildren (· ++ t.children.map fun child => nodeToJson value child.label [])

/-- Gives the objects of the nodes on a stack their children, and the objects of these theirs, until
none is left; with each node comes the position of its object. -/
def toJsonStack {κ : Type} [Ord κ] (value : κ → Json) (document : Json)
    (stack : List (List Nat × Ir κ)) : Json :=
  match stack with
  | [] => document
  | (position, t) :: rest =>
    let first := ((documentAt? document position).map fun d => (childDocuments d).length).getD 0
    toJsonStack value (modifyDocumentAt (writeChildren value t) position document)
      (Tree.pendingChildren position first t ++ rest)
termination_by Tree.forestSize (stack.map Prod.snd)
decreasing_by exact Tree.forestSize_pendingChildren_lt ..

/-- The object of a tree, where `value` writes a kind or a name. -/
def toJson {κ : Type} [Ord κ] (value : κ → Json) (t : Ir κ) : Json :=
  toJsonStack value (nodeToJson value t.label []) [([], t)]

/-- Whether the names of a set can be listed in order: all are texts, or all are numbers, or there
is only one. -/
def namesAreComparable (names : NameSet Json) : Bool :=
  match names.toList with
  | [] | [_] => true
  | first :: rest => (first.rank == 1 || first.rank == 2) && rest.all fun n => n.rank == first.rank

/-- Whether the dependencies of every node can be listed in order. -/
def isListable (t : Ir Json) : Bool :=
  t.labels.all fun label => namesAreComparable label.dependencies

/-! ### Reading -/

/-- Why a value is not the object of a tree. -/
inductive ReadError where
  /-- A node is not an object. -/
  | notAnObject
  /-- A node has no kind. -/
  | missingKind
  /-- The children of a node are a value without contents. -/
  | childrenNotIterable
  /-- The mark for control flow is not one that is known. -/
  | unknownControlFlow (value : Json)
  /-- The dependencies of a node are a value without contents or hold one that is no name. -/
  | badDependencies
  /-- The levels that can be read are used up. -/
  | tooDeep
  deriving DecidableEq

/-- The wording of an error, for those that have one. -/
def ReadError.message? : ReadError → Option String
  | .missingKind => some (Text.quoted "node_type")
  | .unknownControlFlow value => some (value.inspect ++ " is not a valid ControlFlow")
  | .tooDeep => some "maximum recursion depth exceeded"
  | .notAnObject | .childrenNotIterable | .badDependencies => none

/-- The mark for control flow; what counts as false is no mark. -/
def readControlFlow (members : List (String × Json)) :
    Except ReadError (Option ControlFlow) :=
  match members.lookup "control_flow" with
  | none => .ok none
  | some value =>
    if !value.isTruthy then .ok none
    else if value = .str ControlFlow.branch.word then .ok (some .branch)
    else .error (.unknownControlFlow value)

/-- The dependencies, which are the contents of a value; arrays and objects are no names. -/
def readDependencies (members : List (String × Json)) : Except ReadError (NameSet Json) :=
  match members.lookup "dependencies" with
  | none => .ok ∅
  | some value =>
    match value.contents? with
    | some names => if names.all Json.isScalar then .ok (.ofList names) else .error .badDependencies
    | none => .error .badDependencies

mutual

/-- The tree of an object with at most so many levels.  A node is checked before its children for being
an object and having a kind, after them for its mark and its dependencies. -/
def ofJson : (levels : Nat) → Json → Except ReadError (Ir Json)
  | 0, _ => .error .tooDeep
  | levels + 1, .obj members =>
    match members.lookup "node_type" with
    | none => .error .missingKind
    | some kind => do
      let children ← childrenOfMembers levels members
      let controlFlow ← readControlFlow members
      let dependencies ← readDependencies members
      .ok (.node ⟨kind, (members.lookup "name").getD (.str ""), controlFlow, dependencies⟩ children)
  | _ + 1, _ => .error .notAnObject

/-- The children among the members of an object. -/
def childrenOfMembers (levels : Nat) : List (String × Json) → Except ReadError (List (Ir Json))
  | [] => .ok []
  | (name, value) :: rest =>
    if "children" == name then ofContents levels value else childrenOfMembers levels rest

/-- The trees of the contents of a value; neither a character nor the name of a member is an
object. -/
def ofContents (levels : Nat) : Json → Except ReadError (List (Ir Json))
  | .arr items => ofItems levels items
  | .str s => if s = "" then .ok [] else .error (if levels = 0 then .tooDeep else .notAnObject)
  | .obj members =>
    if members.isEmpty then .ok [] else .error (if levels = 0 then .tooDeep else .notAnObject)
  | _ => .error .childrenNotIterable

/-- The trees of a list of values, up to the first fault. -/
def ofItems (levels : Nat) : List Json → Except ReadError (List (Ir Json))
  | [] => .ok []
  | v :: vs => do
    let t ← ofJson levels v
    let ts ← ofItems levels vs
    .ok (t :: ts)

end

end DeclSplit.Ir
