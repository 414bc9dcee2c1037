import DeclSplit.CommandLine.Request
import DeclSplit.Config.Load
import DeclSplit.Console.Markup
import DeclSplit.Console.Table
import DeclSplit.Console.Tree
import DeclSplit.Process
import DeclSplit.Wire.Decode

/-!
# Running the program

A run takes the words of a command line and what is around the program: the files, the parser, and the
variable of the environment that can name a configuration.  It leaves behind the files as they are
then, the lines that it printed, and how it ended.

* `CommandLine.run` — one run;
* `CommandLine.Ending` — how a run can end.
-/

namespace DeclSplit.CommandLine

/-- What is around the program. -/
structure Surroundings where
  limits : Limits
  parser : Parser
  files : FileSystem
  /-- The value of the variable that can name a configuration. -/
  configVariable : Option String

/-- How a run ends. -/
inductive Ending where
  /-- With an exit status. -/
  | exit (status : Nat)
  /-- With markup in the words for the console that is not well formed. -/
  | badMarkup (error : Console.MarkupError)
  /-- With a configuration file that is no text or that has a scalar without value. -/
  | badConfig (error : Config.LoadError)
  /-- With an error on files for which there is no message. -/
  | badPath (error : FileSystem.Error)
  deriving DecidableEq, Repr

/-- The exit status of a run. -/
def Ending.status : Ending → Nat
  | .exit status => status
  | .badMarkup _ | .badConfig _ | .badPath _ => 1

/-- The lines that a run has printed, and the files. -/
structure Session where
  lines : List (List Char)
  files : FileSystem

/-- A part of a run, which may be the last one. -/
abbrev Run := ExceptT Ending (StateM Session)

/-- What a run leaves behind. -/
structure Outcome where
  ending : Ending
  lines : List (List Char)
  files : FileSystem

/-- All that was printed. -/
def Outcome.output (o : Outcome) : String :=
  .ofList (o.lines.flatMap (· ++ ['\n']))

/-! ### Printing -/

/-- The width of the console. -/
def consoleWidth : Nat := 80

/-- Prints lines as they are. -/
def printLines (lines : List (List Char)) : Run Unit :=
  modify fun s => { s with lines := s.lines ++ lines }

/-- A result about markup; a run ends where there is none. -/
def orEnd {α : Type} : Except Console.MarkupError α → Run α
  | .ok value => return value
  | .error e => throw (.badMarkup e)

/-- The text of markup. -/
def readMarkup (markup : List Char) : Run Console.Marked :=
  orEnd (Console.readMarkup markup)

/-- Prints markup, broken into lines. -/
def print (markup : String) : Run Unit := do
  let marked ← readMarkup markup.toList
  printLines (← orEnd (marked.linesBy (Console.wrap .fold consoleWidth)))

/-- Prints the message of an error and ends the run. -/
def fail {α : Type} (message : String) : Run α := do
  print ("[red]Error:[/] " ++ .ofList (Console.escape message.toList))
  throw (.exit 1)

/-- Prints the message of a failed operation on files and ends the run.  There is no message for a path
that cannot be handed to the system. -/
def failFiles {α : Type} (e : FileSystem.Error) : Run α :=
  if e.cause = .nullCharacter then throw (.badPath e) else fail e.message

/-- Prints the message for a file that was not written and ends the run. -/
def failWriting {α : Type} : WriteError → Run α
  | .files e => failFiles e
  | e => fail e.message

/-- The markup of a node of a syntax tree. -/
def labelMarkup (label : Ast.Label) : List Char :=
  Text.trimEnd ("[cyan]".toList ++ Console.escape label.kind.toList ++ "[/] ".toList ++
    Console.escape label.name.toList)

mutual

/-- The tree of the texts of markup. -/
def plainTree : Tree (List Char) → Run (Tree (List Char))
  | .node markup children => return .node (← readMarkup markup).text (← plainForest children)

/-- The trees of the texts of markup. -/
def plainForest : List (Tree (List Char)) → Run (List (Tree (List Char)))
  | [] => return []
  | t :: ts => return (← plainTree t) :: (← plainForest ts)

end

/-- Prints a syntax tree. -/
def printAst (ast : Ast) : Run Unit := do
  printLines (Console.treeLines consoleWidth (← plainTree (ast.map labelMarkup)))

/-- The columns of a table of segments. -/
def segmentColumns : List Console.Column :=
  [⟨"#".toList, .left, some 4⟩, ⟨"Kind".toList, .left, none⟩, ⟨"Name".toList, .left, none⟩,
    ⟨"Deps".toList, .right, none⟩, ⟨"Branches".toList, .right, none⟩]

/-- The row of a segment with its number, its kind and its name. -/
def segmentRow (index : Nat) (kind name : Console.Marked) (segment : Ir String) :
    List Console.Marked :=
  let number (n : Nat) : Console.Marked := .plain (toString n).toList
  [number index, kind, name, number segment.dependencies.toList.length, number segment.branchCount]

/-- The rows of segments with their kinds and their names, numbered from zero on. -/
def segmentRows (segments : List (Ir String)) (kinds names : List Console.Marked) :
    List (List Console.Marked) :=
  (segments.zip (kinds.zip names)).zipIdx.map fun ((segment, kind, name), index) =>
    segmentRow index kind name segment

/-- Prints a table of segments.  Their kinds and names can be markup, which is read column by
column. -/
def printSegments (segments : List (Ir String)) : Run Unit := do
  let kinds ← segments.mapM fun segment => readMarkup segment.kind.toList
  let names ← segments.mapM fun segment => readMarkup segment.name.toList
  let rows := segmentRows segments kinds names
  let title := s!"Segments ({segments.length} found)"
  printLines (← orEnd (Console.tableLines consoleWidth title.toList segmentColumns rows))

/-! ### The commands -/

/-- Prints what is done with a source file. -/
def printHeading (activity source : String) : Run Unit :=
  print s!"\n[bold blue]astseg[/] — {activity}: {source}\n"

/-- Puts the files in the place of those before. -/
def setFiles (files : FileSystem) : Run Unit :=
  modify fun s => { s with files }

/-- Parses a source file and writes its tree. -/
def runParse (parser : Parser) (config : Config) (source : String) (showTree : Bool) :
    Run Unit := do
  printHeading "Parsing" source
  let files := (← get).files
  match (parseSource parser files (.ofString source) config.parserArguments).result with
  | .error e => fail e.message
  | .ok ast =>
    let path := config.output.astPath
    let written := writeInto files config.output.directory [.ofAst path ast]
    setFiles written.files
    if let some e := written.error then failWriting e
    if showTree then printAst ast
    print s!"[green]AST saved to[/] {path} ({ast.nodeCount} nodes)"

/-- Processes a source file up to a stage and writes the output. -/
def process (levels : Nat) (parser : Parser) (config : Config) (source : String) (stage : Stage) :
    Run Processed := do
  let done := processFile levels parser (← get).files (.ofString source) config stage true
  setFiles done.files
  match done.result with
  | .error (.writing e) => failWriting e
  | .error (.parsing e) => fail e.message
  | .ok processed => return processed

/-- Builds the tree of a source file and writes it. -/
def runIr (levels : Nat) (parser : Parser) (config : Config) (source : String) (optimize : Bool) :
    Run Unit := do
  printHeading "Building IR" source
  let processed ← process levels parser config source (if optimize then .optimized else .ir)
  processed.written.forM fun path => print s!"  [green]v[/] {path}"

/-- Splits a source file and writes the segments. -/
def runSegment (levels : Nat) (parser : Parser) (config : Config) (source : String) : Run Unit := do
  printHeading "Segmenting" source
  let processed ← process levels parser config source .segments
  let segments := processed.run.segments
  if segments.isEmpty then print "[yellow]No declarations found.[/]"
  else
    printSegments segments
    print s!"\n[green]Segments written to:[/] {config.output.directory}"

/-- Prints the tree in a file. -/
def runDecode (file : String) : Run Unit := do
  match (← get).files.readFile file with
  | .error e => throw (.badPath e)
  | .ok contents =>
    match Wire.decode contents with
    | .error e => fail e.message
    | .ok none => print "[yellow]Wire file has no root node.[/]"
    | .ok (some ast) => printAst ast

/-- Does what is asked for. -/
def perform (around : Surroundings) (config : Config) : Command → Run Unit
  | .parse source showTree => runParse around.parser config source showTree
  | .ir source optimize => runIr around.limits.writing around.parser config source optimize
  | .segment source => runSegment around.limits.writing around.parser config source
  | .decode file => runDecode file
  | .help command => printLines ((helpPage (some command)).map String.toList)

/-! ### A run -/

/-- Prints what is wrong with a command line and ends the run. -/
def failUsage {α : Type} (e : UsageError) : Run α := do
  printLines e.lines
  throw (.exit 2)

/-- The configuration that is asked for.  A run ends without a message if no file can have the path, or
if the file is no text or has a scalar without value. -/
def configure (around : Surroundings) (asked : Option String) : Run Config := do
  match Config.resolve around.limits (← get).files asked around.configVariable with
  | .ok config => return config
  | .error e =>
    match e with
    | .file ⟨.nullCharacter, _⟩ | .encoding _ | .scalar _ => throw (.badConfig e)
    | .file _ | .config _ => fail s!"Failed to load config: {e.message}"

/-- What is done for the words of a command line. -/
def answer (around : Surroundings) (words : List String) : Run Unit := do
  match readRequest words with
  | .error e => failUsage e
  | .ok .version => printLines [s!"{programName}, version {version}".toList]
  | .ok (.help complete) =>
    printLines ((helpPage none).map String.toList)
    if !complete then throw (.exit 2)
  | .ok (.run asked name words) =>
    let config ← configure around asked
    match readCommand (← get).files name words with
    | .error (.usage e) => failUsage e
    | .error (.path e) => throw (.badPath e)
    | .ok command => perform around config command

/-- One run of the program. -/
def run (around : Surroundings) (words : List String) : Outcome :=
  let (result, session) := (answer around words).run.run ⟨[], around.files⟩
  let ending :=
    match result with
    | .ok () => .exit 0
    | .error ending => ending
  ⟨ending, session.lines, session.files⟩

end DeclSplit.CommandLine
