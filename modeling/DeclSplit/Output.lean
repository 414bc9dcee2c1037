import DeclSplit.Config
import DeclSplit.Event
import DeclSplit.FileSystem
import DeclSplit.Ir.Document
import DeclSplit.Json.Render
import DeclSplit.Wire.Encode

/-!
# Output files

What is to be written is first listed as a plan, which is then carried out in order up to the first
failure.

* `Rendering` — a file to be written, with its path and its contents;
* `Rendering.ofAst`, `Rendering.ofIr`, `Rendering.ofSegments` — the files of trees;
* `writeAll`, `writeInto` — carry out a plan.
-/

namespace DeclSplit

/-- The bytes of an ASCII text. -/
def asciiBytes (text : List Char) : List UInt8 :=
  text.map fun c => UInt8.ofNat c.toNat

/-- The JSON text of a tree of at most so many levels. -/
def Ir.render? (levels : Nat) (t : Ir String) : Option (List Char) :=
  if t.depth ≤ levels then some (t.toJson Json.str).render else none

/-- A file to be written. -/
inductive Rendering where
  /-- A syntax tree in the wire format. -/
  | ast (path : Path) (contents : List UInt8)
  /-- A tree of the intermediate representation as JSON, if it has a text. -/
  | ir (path : Path) (text : Option (List Char))

namespace Rendering

/-- The path of a file. -/
def path : Rendering → Path
  | .ast path _ => path
  | .ir path _ => path

/-- The contents of a file, if there are any. -/
def contents? : Rendering → Option (List UInt8)
  | .ast _ contents => some contents
  | .ir _ text => text.map asciiBytes

/-- What is reported when the file has been written. -/
def event : Rendering → Event
  | .ast path _ => .savedAst path.toString
  | .ir path _ => .savedIr path.toString

/-- The file of a syntax tree. -/
def ofAst (path : Path) (ast : Ast) : Rendering :=
  .ast path (Wire.encode ast)

/-- The file of a tree of the intermediate representation, of which so many levels can be written. -/
def ofIr (levels : Nat) (path : Path) (t : Ir String) : Rendering :=
  .ir path (t.render? levels)

/-- The name of the file of a segment. -/
def segmentFile (index : Nat) : String :=
  s!"ir_segment_{index}.json"

/-- The files of segments in a directory, numbered from zero. -/
def ofSegments (levels : Nat) (directory : Path) (segments : List (Ir String)) : List Rendering :=
  segments.mapIdx fun i s => ofIr levels (directory.join (.ofString (segmentFile i))) s

end Rendering

/-- Why a file was not written. -/
inductive WriteError where
  /-- The tree is too deep to be written as JSON. -/
  | tooDeep (path : Path)
  /-- The file could not be opened, or writing to it broke off. -/
  | files (error : FileSystem.Error)
  deriving DecidableEq, Repr

/-- The wording of an error. -/
def WriteError.message : WriteError → String
  | .tooDeep path => s!"IR tree too deeply nested to write as JSON: {path}"
  | .files error => error.message

/-- Writes one file, and says what failed. -/
def Rendering.write (file : Rendering) (fs : FileSystem) : FileSystem × Option WriteError :=
  match file.contents? with
  | none => (fs, some (.tooDeep file.path))
  | some contents =>
    let (fs, error) := fs.writeFile file.path.toString contents
    (fs, error.map .files)

/-- What came of carrying out a plan: the files as they are then, those that were written, and what
stopped it. -/
structure Written where
  files : FileSystem
  done : List Rendering
  error : Option WriteError

/-- The paths of the files that were written. -/
def Written.paths (w : Written) : List Path :=
  w.done.map Rendering.path

/-- What is reported of the files that were written. -/
def Written.events (w : Written) : List Event :=
  w.done.map Rendering.event

/-- What came of a plan and, unless it was stopped, of a further one after it. -/
def Written.andThen (w : Written) (further : FileSystem → Written) : Written :=
  match w.error with
  | some _ => w
  | none =>
    let w' := further w.files
    { w' with done := w.done ++ w'.done }

/-- Writes the files of a plan in order, up to the first that cannot be written. -/
def writeAll (fs : FileSystem) : List Rendering → Written
  | [] => ⟨fs, [], none⟩
  | file :: rest =>
    match file.write fs with
    | (fs, some e) => ⟨fs, [], some e⟩
    | (fs, none) =>
      let w := writeAll fs rest
      { w with done := file :: w.done }

/-- Makes a directory and carries out a plan. -/
def writeInto (fs : FileSystem) (directory : Path) (plan : List Rendering) : Written :=
  match fs.makeDirectories directory with
  | (fs, some e) => ⟨fs, [], some (.files e)⟩
  | (fs, none) => writeAll fs plan

/-- Writes each segment to a file of its own in a directory. -/
def writeSegments (levels : Nat) (fs : FileSystem) (directory : Path) (segments : List (Ir String)) :
    Written :=
  writeInto fs directory (Rendering.ofSegments levels directory segments)

end DeclSplit
