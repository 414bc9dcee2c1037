import DeclSplit.Output
import DeclSplit.Parsing
import DeclSplit.Pipeline

/-!
# Processing a source file

A source file is parsed, run through the pipeline and written out: its syntax tree first, then either
the tree of the intermediate representation or the segments.

* `writeOutput` — writes the output of a run;
* `processFile` — parses, runs and writes.
-/

namespace DeclSplit

/-- Writes the output of a run: the syntax tree into the output directory, then what the stage has
made of it. -/
def writeOutput (levels : Nat) (fs : FileSystem) (output : Config.Output) (stage : Stage) (ast : Ast)
    (run : Pipeline) : Written :=
  (writeInto fs output.directory [.ofAst output.astPath ast]).andThen fun fs =>
    match stage with
    | .segments => writeSegments levels fs output.directory run.segments
    | .ir | .optimized => writeAll fs [.ofIr levels output.irPath run.ir]

/-- Why a source file was not processed. -/
inductive ProcessError where
  | parsing (error : ParseError)
  | writing (error : WriteError)
  deriving DecidableEq, Repr

/-- The wording of an error. -/
def ProcessError.message : ProcessError → String
  | .parsing error => error.message
  | .writing error => error.message

/-- What a source file was processed to. -/
structure Processed where
  ast : Ast
  run : Pipeline
  written : List Path

/-- What came of processing a source file: the result or the error, the files as they are then, what
the parser was asked, and what was reported. -/
structure Processing where
  result : Except ProcessError Processed
  files : FileSystem
  requests : List Parser.Request
  events : List Event

/-- Parses the source file at a path, runs the pipeline up to a stage and, if asked to, writes the
output, where so many levels of a tree can be written as JSON. -/
def processFile (levels : Nat) (parser : Parser) (fs : FileSystem) (source : Path) (config : Config)
    (stage : Stage) (write : Bool) : Processing :=
  let parsed := parseSource parser fs source config.parserArguments
  match parsed.result with
  | .error e => ⟨.error (.parsing e), fs, parsed.requests, parsed.events⟩
  | .ok ast =>
    let run := Pipeline.run config.vocabulary stage ast
    let events := parsed.events ++ Pipeline.events config.vocabulary stage ast
    if write then
      let w := writeOutput levels fs config.output stage ast run
      let result :=
        match w.error with
        | some e => .error (.writing e)
        | none => .ok ⟨ast, run, w.paths⟩
      ⟨result, w.files, parsed.requests, events ++ w.events⟩
    else
      ⟨.ok ⟨ast, run, []⟩, fs, parsed.requests, events⟩

end DeclSplit
