import DeclSplit.Event
import DeclSplit.Ir.Build
import DeclSplit.Ir.Optimize
import DeclSplit.Ir.Segment
import DeclSplit.Json.Inspect

/-!
# The pipeline

A syntax tree becomes a tree of the intermediate representation, loses its grouping nodes and is split
into segments with their dependencies resolved.  A run may stop after any of these stages.

* `Stage` — how far a run goes;
* `Pipeline.run` — what a run yields;
* `Pipeline.events` — what it reports.
-/

namespace DeclSplit

/-- How far a run of the pipeline goes. -/
inductive Stage where
  /-- The tree is built. -/
  | ir
  /-- Grouping nodes are left out. -/
  | optimized
  /-- The tree is split into segments. -/
  | segments
  deriving DecidableEq, Repr, Inhabited

namespace Stage

/-- The name of a stage. -/
def name : Stage → String
  | .ir => "ir"
  | .optimized => "optimized"
  | .segments => "segments"

/-- The stage of a name. -/
def ofName? (name : String) : Option Stage :=
  [ir, optimized, segments].find? fun stage => stage.name == name

/-- The stage that a value names, or what is wrong with the value. -/
def ofJson : Json → Except String Stage
  | .str name =>
    match ofName? name with
    | some stage => .ok stage
    | none => .error (unknown (.str name))
  | value => .error (unknown value)
where
  /-- The wording for a value that names no stage. -/
  unknown (value : Json) : String := value.inspect ++ " is not a valid Stage"

end Stage

/-- What a run of the pipeline yields; there are segments only after the last stage. -/
structure Pipeline where
  ir : Ir String
  segments : List (Ir String)
  deriving DecidableEq

namespace Pipeline

/-- Runs the stages up to the given one. -/
def run (v : Vocabulary) (stage : Stage) (ast : Ast) : Pipeline :=
  let ir := Ir.build v ast
  match stage with
  | .ir => ⟨ir, []⟩
  | .optimized => ⟨ir.optimize v, []⟩
  | .segments =>
    let ir := ir.optimize v
    ⟨ir, Ir.resolve (ir.segments v)⟩

/-- What the stages up to the given one report. -/
def events (v : Vocabulary) (stage : Stage) (ast : Ast) : List Event :=
  let ir := Ir.build v ast
  let built := Event.ofBuild Text.quoted ast
  let optimized := built ++ Event.ofOptimize ir (ir.optimize v)
  match stage with
  | .ir => built
  | .optimized => optimized
  | .segments =>
    let segments := (ir.optimize v).segments v
    optimized ++ Event.ofSegments segments ++
      Event.ofResolve Text.quoted (.ofSegments segments) segments ++ [.produced segments.length]

end Pipeline

end DeclSplit
