import DeclSplit.Path
import DeclSplit.Vocabulary
import DeclSplit.Yaml.Value

/-!
# Configurations

A configuration has the kind vocabulary, the arguments for the parser and the places of the output.
All of its settings may be left out.

* `Config` — configurations; the default one is `default`;
* `Config.ofValue` — the configuration of a YAML or JSON value, or the first fault in it;
* `Config.Error` — the faults, with their wording.
-/

namespace DeclSplit

/-- Where output is written. -/
structure Config.Output where
  directory : Path := .ofString "."
  astFile : String := "ast_output.pb"
  irFile : String := "ir_output.json"
  deriving DecidableEq, Inhabited

/-- A configuration. -/
structure Config where
  vocabulary : Vocabulary := .standard
  parserArguments : List String := []
  output : Config.Output := {}
  deriving DecidableEq

namespace Config

instance : Inhabited Config := ⟨{}⟩

/-- The path of the syntax tree. -/
def Output.astPath (output : Output) : Path :=
  output.directory.join (.ofString output.astFile)

/-- The path of the tree of the intermediate representation. -/
def Output.irPath (output : Output) : Path :=
  output.directory.join (.ofString output.irFile)

/-- What is wrong with a configuration. -/
inductive Fault where
  /-- It is not a mapping. -/
  | notAMapping
  /-- A section is not a mapping. -/
  | sectionNotAMapping (key : String)
  /-- A setting is not a text. -/
  | notAString (key typeName : String)
  /-- A setting is not a list of texts. -/
  | notStrings (key : String)
  deriving DecidableEq, Repr

/-- A faulty configuration and where it comes from. -/
inductive Error where
  /-- The values are not those of a configuration. -/
  | invalid (source : String) (fault : Fault)
  /-- The file is not well-formed YAML. -/
  | malformed (file : String)
  deriving DecidableEq, Repr

/-- The wording of a fault. -/
def Fault.message : Fault → String
  | .notAMapping => "top level must be a mapping"
  | .sectionNotAMapping key => s!"'{key}' must be a mapping"
  | .notAString key typeName => s!"'{key}' must be a string, got {typeName}"
  | .notStrings key => s!"'{key}' must be a list of strings"

/-- The wording of an error. -/
def Error.message : Error → String
  | .invalid source fault => s!"{source}: {fault.message}"
  | .malformed file => s!"Invalid YAML in {file}"

open Yaml (Value)

/-- The depth of the texts in a list in a section of a configuration; no setting lies deeper. -/
def depth : Nat := 3

/-- A section, which counts as empty if it is missing or empty in any way. -/
def readSection (data : Value) (key : String) : Except Fault Value :=
  match data.get? key with
  | none => .ok (.dict [])
  | some value =>
    if !value.isTruthy then .ok (.dict [])
    else
      match value with
      | .dict entries => .ok (.dict entries)
      | _ => .error (.sectionNotAMapping key)

/-- A setting that is a text. -/
def readString (data : Value) (key fallback : String) : Except Fault String :=
  match data.get? key with
  | none => .ok fallback
  | some (.str s) => .ok s
  | some value => .error (.notAString key value.typeName)

/-- A setting that is a list or a set of texts. -/
def readStrings (data : Value) (key : String) : Except Fault (Option (List String)) :=
  match data.get? key with
  | none => .ok none
  | some (.list items) | some (.set items) =>
    match items.mapM Value.str? with
    | some texts => .ok (some texts)
    | none => .error (.notStrings key)
  | some _ => .error (.notStrings key)

/-- A setting that is a set of texts. -/
def readNames (data : Value) (key : String) (fallback : NameSet String) :
    Except Fault (NameSet String) := do
  match ← readStrings data key with
  | some texts => .ok (.ofList texts)
  | none => .ok fallback

/-- The configuration of a value; the faults are looked for in the order of the settings. -/
def read (data : Value) : Except Fault Config := do
  match data with
  | .dict _ => pure ()
  | _ => throw .notAMapping
  let kinds ← readSection data "kinds"
  let output ← readSection data "output"
  let branchKinds ← readNames kinds "branch" Vocabulary.standard.branchKinds
  let groupingKind ← readString kinds "grouping" Vocabulary.standard.groupingKind
  let declarationKinds ← readNames kinds "declarations" Vocabulary.standard.declarationKinds
  let arguments ← readStrings data "clang_args"
  let directory ← readString output "directory" (toString ({} : Output).directory)
  let astFile ← readString output "ast_file" ({} : Output).astFile
  let irFile ← readString output "ir_file" ({} : Output).irFile
  return {
    vocabulary := ⟨branchKinds, groupingKind, declarationKinds⟩
    parserArguments := arguments.getD []
    output := ⟨.ofString directory, astFile, irFile⟩ }

/-- The configuration of a value that comes from the given source. -/
def ofValue (source : String) (data : Value) : Except Error Config :=
  (read data).mapError (.invalid source)

end Config

end DeclSplit
