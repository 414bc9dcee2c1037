import DeclSplit.Event
import DeclSplit.Ir.Build
import DeclSplit.Ir.Document
import DeclSplit.Ir.Optimize
import DeclSplit.Ir.Segment

/-!
# Workspaces

A workspace holds trees, lists of trees and dependency tables under names, and commands that work on
them.  Each name owns what it holds: a command changes the tree or the list it names and no other.

* `Workspace` — what is held;
* `Workspace.Ref` — a node in it;
* `Workspace.Command`, `Workspace.Answer` — what can be done, and what is shown of it;
* `Workspace.run` — one command.
-/

namespace DeclSplit

/-- Trees, lists of trees and dependency tables, each under a name. -/
structure Workspace where
  trees : List (String × Ir Json)
  lists : List (String × List (Ir Json))
  tables : List (String × DependencyTable Json)

namespace Workspace

/-- The workspace that holds nothing. -/
def empty : Workspace := ⟨[], [], []⟩

instance : Inhabited Workspace := ⟨empty⟩

/-- A node of a tree: where the tree is held, and the position of the node in it. -/
inductive Ref where
  | tree (name : String) (position : List Nat)
  | item (list : String) (index : Nat) (position : List Nat)

/-- A field of a node that can be assigned. -/
inductive Field where
  | kind
  | name

/-- What can be done in a workspace. -/
inductive Command where
  | tree (target : String) (t : Ir Json)
  | build (target : String) (v : Vocabulary) (ast : Ast)
  | load (target : String) (data : Json)
  | clone (of : Ref) (target : String)
  | shallow (of : Ref) (target : String)
  | optimize (of : Ref) (v : Vocabulary)
  | segment (of : Ref) (target : String) (v : Vocabulary)
  | collect (of : List Ref) (target : String)
  | table (of : String) (target : String)
  | tableOf (target : String) (entries : DependencyTable Json)
  | showTable (of : String)
  | resolve (of : String) (table : Option String)
  | addDependency (of : Ref) (name : Json)
  | dropDependency (of : Ref) (name : Json)
  | set (of : Ref) (field : Field) (value : Json)
  | append (of node : Ref)
  | clear (of : Ref)
  | count (of : Ref)
  | document (of : Ref)
  | dump (of : Ref)
  | dumpList (of : String)
  | equal (a b : Ref)

/-- What is shown of a command. -/
inductive Answer where
  | tree (t : Ir Json)
  | trees (ts : List (Ir Json))
  | table (entries : List (Json × NameSet Json))
  | names (names : NameSet Json)
  | counts (nodes branches : Nat)
  | document (data : Json)
  | truth (b : Bool)

/-- Why a command changed nothing. -/
inductive Error where
  /-- Nothing is held under a name. -/
  | unknownName (name : String)
  /-- A list or a node has no such item. -/
  | noItem
  /-- A document is not one of a tree. -/
  | document (error : Ir.ReadError)
  /-- A value that is an array or an object stands for a kind or a name. -/
  | notAName
  /-- Names of different sorts cannot be listed in order. -/
  | notComparable

/-! ### Comparing -/

/-- Whether two labels hold values that stand for the same. -/
def sameLabel (l m : Ir.Label Json) : Bool :=
  l.kind.same m.kind && l.name.same m.name && l.controlFlow == m.controlFlow &&
    l.dependencies.toList.isEqv m.dependencies.toList fun v w => compare v w == .eq

/-- Whether two trees have one shape and nodes that hold values that stand for the same. -/
def sameTree (t u : Ir Json) : Bool :=
  t.listing.isEqv u.listing fun (l, count) (m, count') => sameLabel l m && count == count'

/-! ### Looking up -/

/-- The value of a key, the last one put. -/
def find {α : Type} (held : List (String × α)) (name : String) : Except Error α :=
  match held.lookup name with
  | some a => .ok a
  | none => .error (.unknownName name)

/-- What is held, with one more value under a name. -/
def put {α : Type} (held : List (String × α)) (name : String) (a : α) : List (String × α) :=
  (name, a) :: held.filter (·.1 != name)

/-- The whole tree that a reference leads into. -/
def whole (w : Workspace) : Ref → Except Error (Ir Json)
  | .tree name _ => find w.trees name
  | .item list index _ => do
    match (← find w.lists list)[index]? with
    | some t => .ok t
    | none => .error .noItem

/-- The position of a reference in its tree. -/
def Ref.position : Ref → List Nat
  | .tree _ position | .item _ _ position => position

/-- The subtree at a reference. -/
def subtree (w : Workspace) (ref : Ref) : Except Error (Ir Json) := do
  match (← w.whole ref).at? ref.position with
  | some t => .ok t
  | none => .error .noItem

/-- The workspace with another tree where a reference leads into. -/
def setWhole (w : Workspace) (ref : Ref) (t : Ir Json) : Workspace :=
  match ref with
  | .tree name _ => { w with trees := put w.trees name t }
  | .item list index _ =>
    { w with lists := w.lists.map fun (name, ts) => (name, if name = list then ts.set index t else ts) }

/-- Changes the subtree at a reference, and shows the whole tree. -/
def change (w : Workspace) (ref : Ref) (f : Ir Json → Ir Json) :
    Except Error (Ir Json × Workspace) := do
  let _ ← w.subtree ref
  let t := (← w.whole ref).modifyAt f ref.position
  .ok (t, w.setWhole ref t)

/-! ### Commands -/

/-- A test of kinds for values, of which only texts can meet it. -/
def onTexts (test : String → Bool) : Json → Bool
  | .str s => test s
  | _ => false

/-- Fails if a value is an array or an object. -/
def checkName (value : Json) : Except Error Unit :=
  if value.isScalar then .ok () else .error .notAName

/-- A tree whose kinds and names are texts, as a tree of values. -/
def ofTexts (t : Ir String) : Ir Json :=
  t.map fun label =>
    ⟨.str label.kind, .str label.name, label.controlFlow, label.dependencies.map Json.str⟩

/-- What a command shows, the workspace after it, and what was reported. -/
structure Outcome where
  answer : Answer
  workspace : Workspace
  events : List Event

/-- Shows the tree that was put under a name. -/
def keepTree (w : Workspace) (target : String) (t : Ir Json) (events : List Event) : Outcome :=
  ⟨.tree t, { w with trees := put w.trees target t }, events⟩

/-- Shows the list that was put under a name. -/
def keepList (w : Workspace) (target : String) (ts : List (Ir Json)) (events : List Event) : Outcome :=
  ⟨.trees ts, { w with lists := put w.lists target ts }, events⟩

/-- Carries out one command, where so many levels of a document can be read. -/
def run (levels : Nat) (w : Workspace) : Command → Except Error Outcome
  | .tree target t => .ok (w.keepTree target t [])
  | .build target v ast =>
    .ok (w.keepTree target (ofTexts (Ir.build v ast)) (Event.ofBuild Text.quoted ast))
  | .load target data => do
    let t ← (Ir.ofJson levels data).mapError .document
    .ok (w.keepTree target t [])
  | .clone of target => do
    .ok (w.keepTree target (← w.subtree of).clone [])
  | .shallow of target => do
    .ok (w.keepTree target (← w.subtree of).shallow [])
  | .optimize of v => do
    let before ← w.subtree of
    let after := before.optimizeWhere (onTexts v.isGrouping)
    let (t, w) ← w.change of fun _ => after
    .ok ⟨.tree t, w, Event.ofOptimize before after⟩
  | .segment of target v => do
    let t ← w.subtree of
    t.labels.forM fun label => checkName label.kind
    let ts := t.segmentsWhere (onTexts v.isDeclaration)
    .ok (w.keepList target ts (Event.ofSegments ts))
  | .collect refs target => do
    .ok (w.keepList target ((← refs.mapM w.subtree).map Tree.clone) [])
  | .table of target => do
    let ts ← find w.lists of
    ts.forM fun t => checkName t.name
    let table := DependencyTable.ofSegments ts
    .ok ⟨.table table.entries, { w with tables := put w.tables target table }, []⟩
  | .tableOf target entries =>
    let tables := put w.tables target entries
    .ok ⟨.table (DependencyTable.entries entries), { w with tables }, []⟩
  | .showTable of => do
    .ok ⟨.table (← find w.tables of).entries, w, []⟩
  | .resolve of table => do
    let ts ← find w.lists of
    let table ← match table with
      | some name => find w.tables name
      | none => do
        ts.forM fun t => checkName t.name
        pure (DependencyTable.ofSegments ts)
    let grown := Ir.resolveWith table ts
    .ok ⟨.table (grown.map fun t => (t.name, t.dependencies)),
      { w with lists := put w.lists of grown }, Event.ofResolve Json.inspect table ts⟩
  | .addDependency of name => do
    let _ ← w.subtree of
    checkName name
    let grow := fun (t : Ir Json) =>
      t.mapRoot fun label => { label with dependencies := label.dependencies.insert name }
    let (_, w) ← w.change of grow
    .ok ⟨.names (← w.subtree of).dependencies, w, []⟩
  | .dropDependency of name => do
    let _ ← w.subtree of
    checkName name
    let shrink := fun (t : Ir Json) =>
      t.mapRoot fun label => { label with dependencies := label.dependencies.erase name }
    let (_, w) ← w.change of shrink
    .ok ⟨.names (← w.subtree of).dependencies, w, []⟩
  | .set of field value => do
    let assign := fun (t : Ir Json) => t.mapRoot fun label =>
      match field with
      | .kind => { label with kind := value }
      | .name => { label with name := value }
    let (t, w) ← w.change of assign
    .ok ⟨.tree t, w, []⟩
  | .append of node => do
    let child ← w.subtree node
    let (t, w) ← w.change of fun t => .node t.label (t.children ++ [child.clone])
    .ok ⟨.tree t, w, []⟩
  | .clear of => do
    let (t, w) ← w.change of Ir.shallow
    .ok ⟨.tree t, w, []⟩
  | .count of => do
    let t ← w.subtree of
    .ok ⟨.counts t.nodeCount t.branchCount, w, []⟩
  | .document of => do
    let t ← w.subtree of
    if t.isListable then .ok ⟨.document (t.toJson id), w, []⟩ else .error .notComparable
  | .dump of => do
    .ok ⟨.tree (← w.subtree of), w, []⟩
  | .dumpList of => do
    .ok ⟨.trees (← find w.lists of), w, []⟩
  | .equal a b => do
    .ok ⟨.truth (sameTree (← w.subtree a) (← w.subtree b)), w, []⟩

end Workspace

end DeclSplit
