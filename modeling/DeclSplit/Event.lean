import DeclSplit.Ast
import DeclSplit.Ir.Dependencies

/-!
# Events

What the stages report while they work, each event with its severity, the channel it is reported on
and its wording.

* `Event` — the events;
* `Event.severity`, `Event.channel`, `Event.message` — how an event is reported;
* `Event.ofBuild`, `Event.ofOptimize`, `Event.ofSegments`, `Event.ofResolve` — the events of the
  operations on trees.

Where a name is shown, the event holds it as messages show it, quoted.
-/

namespace DeclSplit

/-- Something that a stage reports. -/
inductive Event where
  /-- A tree of the intermediate representation was built. -/
  | built (kind shownName : String)
  /-- Grouping nodes were left out. -/
  | optimized (before after : Nat)
  /-- The segments of a tree were taken. -/
  | extracted (count : Nat)
  /-- A segment gained dependencies. -/
  | gained (shownName : String) (count : Nat)
  /-- All stages are done. -/
  | produced (count : Nat)
  /-- The parser complained about a source file. -/
  | complaint (path text : String)
  /-- A source file was parsed. -/
  | parsed (path : String) (count : Nat)
  /-- A syntax tree was written. -/
  | savedAst (path : String)
  /-- A tree of the intermediate representation was written. -/
  | savedIr (path : String)
  deriving DecidableEq, Repr

namespace Event

/-- How much an event matters. -/
inductive Severity where
  | debug
  | info
  | warning
  deriving DecidableEq, Repr

/-- How much an event matters. -/
def severity : Event → Severity
  | .built .. | .optimized .. | .extracted .. | .gained .. => .debug
  | .produced .. | .parsed .. | .savedAst .. | .savedIr .. => .info
  | .complaint .. => .warning

/-- The channel that an event is reported on. -/
def channel : Event → String
  | .built .. => "astseg.ir.builder"
  | .optimized .. => "astseg.ir.optimizer"
  | .extracted .. => "astseg.ir.segmenter"
  | .gained .. => "astseg.ir.resolver"
  | .produced .. => "astseg.pipeline"
  | .complaint .. | .parsed .. => "astseg.frontend.clang_parser"
  | .savedAst .. => "astseg.frontend.wire"
  | .savedIr .. => "astseg.emit.json_writer"

/-- The wording of an event. -/
def message : Event → String
  | .built kind shownName => s!"Built IR for {kind} {shownName}"
  | .optimized before after => s!"Optimized IR: {before} -> {after} nodes"
  | .extracted count => s!"Extracted {count} segments"
  | .gained shownName count => s!"Segment {shownName} gained {count} dependencies"
  | .produced count => s!"Pipeline produced {count} segments"
  | .complaint path text => s!"{path}: {text}"
  | .parsed path count => s!"Parsed {path} into {count} AST nodes"
  | .savedAst path => s!"AST saved to {path}"
  | .savedIr path => s!"IR saved to {path}"

/-! ### Events of the operations on trees -/

variable {κ : Type} [Ord κ]

/-- A tree was built from a syntax tree; `shown` quotes a name. -/
def ofBuild (shown : String → String) (ast : Ast) : List Event :=
  [.built ast.kind (shown ast.name)]

/-- A tree became another by leaving out grouping nodes. -/
def ofOptimize (before after : Ir κ) : List Event :=
  [.optimized before.nodeCount after.nodeCount]

/-- Segments were taken. -/
def ofSegments (segments : List (Ir κ)) : List Event :=
  [.extracted segments.length]

/-- Segments were grown through a table; those that gained nothing are not reported. -/
def ofResolve [Std.TransOrd κ] (shown : κ → String) (table : DependencyTable κ)
    (segments : List (Ir κ)) : List Event :=
  (segments.filter fun s => s.gain table != 0).map fun s => .gained (shown s.name) (s.gain table)

end Event

end DeclSplit
