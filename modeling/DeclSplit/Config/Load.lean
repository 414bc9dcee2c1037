import DeclSplit.Config
import DeclSplit.FileSystem
import DeclSplit.Yaml

/-!
# Configuration files

* `Config.load` — the configuration of a file;
* `Config.chosenFile` — the file that is used: the one that is asked for, else the one of the
  environment, else the usual one if it is there;
* `Config.resolve` — the configuration of the chosen file, the default one if there is none;
* `Config.LoadError` — why there is none, with the wording.
-/

namespace DeclSplit.Config

/-- Why a file has no configuration. -/
inductive LoadError where
  /-- The file cannot be read. -/
  | file (error : FileSystem.Error)
  /-- The file is no text. -/
  | encoding (fault : Text.Utf8.Fault)
  /-- A scalar in the file has no value. -/
  | scalar (fault : Yaml.Fault)
  /-- The file is not well formed, or its values are not those of a configuration. -/
  | config (error : Config.Error)
  deriving DecidableEq, Repr

/-- The wording of an error. -/
def LoadError.message : LoadError → String
  | .file error => error.message
  | .encoding fault => fault.message
  | .scalar fault => fault.message
  | .config error => error.message

/-- The error for a fault in the given file. -/
def LoadError.ofFault (path : String) : Yaml.Fault → LoadError
  | .malformed | .unfinished => .config (.malformed path)
  | .undecodable fault => .encoding fault
  | fault => .scalar fault

/-- The configuration of the contents of a file.  What is empty in any way counts as a mapping without
entries. -/
def ofContents (limits : Limits) (path : String) (contents : List UInt8) :
    Except LoadError Config := do
  let input := Yaml.Input.ofReading (Text.readPieces contents)
  let data ← (Yaml.parse limits Config.depth input).mapError (.ofFault path)
  let data := if data.isTruthy then data else .dict []
  (ofValue path data).mapError .config

/-- The configuration of a file. -/
def load (limits : Limits) (fs : FileSystem) (path : String) : Except LoadError Config := do
  let contents ← (fs.readFile path).mapError .file
  ofContents limits path contents

/-- The file that is used if no other is asked for. -/
def usualFile : String := "astseg.yaml"

/-- The variable of the environment that can hold the path of the file. -/
def environmentVariable : String := "ASTSEG_CONFIG"

/-- The file that is used: the one that is asked for, else the one of the environment, else the usual
one if it is there.  An empty path counts as none. -/
def chosenFile (fs : FileSystem) (asked environment : Option String) :
    Except FileSystem.Error (Option String) :=
  match asked.filter (· ≠ ""), environment.filter (· ≠ "") with
  | some path, _ => .ok (some path)
  | none, some path => .ok (some path)
  | none, none => do
    if ← fs.isFile usualFile then return some usualFile else return none

/-- The configuration of the chosen file, the default one if there is none. -/
def resolve (limits : Limits) (fs : FileSystem) (asked environment : Option String) :
    Except LoadError Config := do
  match ← (chosenFile fs asked environment).mapError .file with
  | some path => load limits fs path
  | none => return default

end DeclSplit.Config
