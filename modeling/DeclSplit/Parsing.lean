import DeclSplit.Cursor
import DeclSplit.Event
import DeclSplit.FileSystem

/-!
# Parsing source files

A source file is parsed by an outside parser, which is given here as what it answers.

* `Parser` — the outside parser;
* `parseSource` — the syntax tree of a source file;
* `ParseError` — why there is none, with the wording.
-/

namespace DeclSplit

/-- A complaint of the parser about a source file. -/
structure Parser.Complaint where
  severity : Int
  text : String
  deriving DecidableEq, Repr

/-- What the parser answers. -/
inductive Parser.Answer where
  /-- The cursors of the file, and complaints about it. -/
  | unit (root : Cursor) (complaints : List Parser.Complaint)
  /-- The file could not be parsed. -/
  | fileFailed (reason : String)
  /-- The parser itself could not be loaded. -/
  | parserFailed (reason : String)

/-- A question to the parser: the path of a file and further arguments. -/
structure Parser.Request where
  path : String
  arguments : List String
  deriving DecidableEq, Repr

/-- An outside parser, which may not be installed. -/
structure Parser where
  installed : Bool
  answer : Parser.Request → Parser.Answer

/-- Why a source file has no syntax tree. -/
inductive ParseError where
  | sourceNotFound (path : Path)
  | parserMissing
  | fileFailed (path : Path) (reason : String)
  | parserFailed (reason : String)
  /-- It cannot be looked for the source file. -/
  | files (error : FileSystem.Error)
  deriving DecidableEq, Repr

/-- The wording of an error. -/
def ParseError.message : ParseError → String
  | .sourceNotFound path => s!"Source file not found: {path}"
  | .parserMissing =>
    "libclang Python bindings are required. Install them with: pip install libclang"
  | .fileFailed path reason => s!"Error parsing C file '{path}': {reason}"
  | .parserFailed reason => s!"Could not load libclang: {reason}"
  | .files error => error.message

/-- What came of parsing a source file: the tree or the error, what the parser was asked, and what
was reported. -/
structure Parsed where
  result : Except ParseError Ast
  requests : List Parser.Request
  events : List Event

/-- Complaints from this severity on are reported. -/
def Parser.errorSeverity : Int := 3

/-- Parses the source file at a path. -/
def parseSource (parser : Parser) (fs : FileSystem) (path : Path) (arguments : List String) :
    Parsed :=
  let text := path.toString
  match fs.isFile text with
  | .error e => ⟨.error (.files e), [], []⟩
  | .ok false => ⟨.error (.sourceNotFound path), [], []⟩
  | .ok true =>
    if !parser.installed then ⟨.error .parserMissing, [], []⟩
    else
      let request : Parser.Request := ⟨text, arguments⟩
      match parser.answer request with
      | .fileFailed reason => ⟨.error (.fileFailed path reason), [request], []⟩
      | .parserFailed reason => ⟨.error (.parserFailed reason), [request], []⟩
      | .unit root complaints =>
        let ast := root.toAst
        let reported := complaints.filter fun c => Parser.errorSeverity ≤ c.severity
        ⟨.ok ast, [request],
          reported.map (fun c => .complaint text c.text) ++ [.parsed text ast.nodeCount]⟩

end DeclSplit
