import DeclSplit.CommandLine

/-!
# The program

The program sees the working directory and the files and directories below it.  No parser is linked to
it, so the commands that parse a source file say that it is missing.

* `main` — takes stock of the files, runs, and carries out what came of it.
-/

namespace DeclSplit.Program

/-- The location of a path from the root. -/
def locationOf (path : String) : FileSystem.Location :=
  ((Text.splitOn '/' path.toList).filter (· ≠ [])).map String.ofList

/-- The path of a location. -/
def pathOf (location : FileSystem.Location) : String :=
  "/" ++ "/".intercalate location

/-- The locations on the way to a location, outermost first, and itself. -/
def wayTo (location : FileSystem.Location) : List FileSystem.Location :=
  (List.range location.length).map fun n => location.take (n + 1)

/-- An entry of a directory and all that is below it, without contents.  Each file still has the number
zero. -/
partial def survey (around : FileSystem.Location) (entry : IO.FS.DirEntry) :
    IO (List (FileSystem.Location × FileSystem.Entry)) := do
  let location := around ++ [entry.fileName]
  match (← entry.path.symlinkMetadata).type with
  | .dir =>
    let below ← (← entry.path.readDir).toList.mapM (survey location)
    return (location, .directory) :: below.flatten
  | .file => return [(location, .file 0)]
  | .symlink | .other => return []

/-- The entries with a number of its own for each file. -/
def numberFiles (entries : List (FileSystem.Location × FileSystem.Entry)) :
    List (FileSystem.Location × FileSystem.Entry) :=
  entries.mapIdx fun
    | id, (location, .file _) => (location, .file id)
    | _, entry => entry

/-- The paths whose files a run may read. -/
def readPaths (words : List String) (environment : Option String) : List String :=
  match CommandLine.readRequest words with
  | .ok (.run asked _ rest) =>
    Config.usualFile :: asked.toList ++ environment.toList ++ rest
  | _ => []

/-- The file system with the contents of the file at a path, if there is one. -/
def addContents (fs : FileSystem) (path : String) : IO FileSystem := do
  match fs.locate path with
  | .error _ => return fs
  | .ok location =>
    match fs.get? location with
    | some (.file id) =>
      let contents ← IO.FS.readBinFile (pathOf location)
      return fs.setBytes id contents.data.toList
    | _ => return fs

/-- The files as far as a run may look at them. -/
def readFiles (paths : List String) : IO FileSystem := do
  let directory ← IO.currentDir
  let here := locationOf directory.toString
  let entries ← (← directory.readDir).toList.mapM (survey here)
  let entries := (wayTo here).map (·, .directory) ++ numberFiles entries.flatten
  paths.foldlM addContents { entries, contents := [], workingDirectory := here }

/-- Whether the entry at a location is not as it was before. -/
def isChanged (before after : FileSystem) (location : FileSystem.Location) : Bool :=
  match before.get? location, after.get? location with
  | some (.file id), some (.file id') => before.bytes id != after.bytes id'
  | entry, entry' => entry != entry'

/-- Makes the directories and writes the files that are new or changed. -/
def writeFiles (before after : FileSystem) : IO Unit := do
  for (location, entry) in after.entries do
    if isChanged before after location then
      match entry with
      | .directory => IO.FS.createDirAll (pathOf location)
      | .file id => IO.FS.writeBinFile (pathOf location) ⟨(after.bytes id).toArray⟩
      | .link _ | .device _ => pure ()

/-- The limits of the program. -/
def limits : Limits :=
  { writing := 480, reading := 490, collections := 480, standIns := 900 }

/-- The parser where there is none. -/
def missingParser : Parser :=
  { installed := false, answer := fun _ => .parserFailed "not installed" }

/-- What is said at the end of a run that has no message of its own. -/
def lastWords : CommandLine.Ending → Option String
  | .exit _ => none
  | .badMarkup e => some e.message
  | .badConfig e => some e.message
  | .badPath e => some e.message

/-- Takes stock of the files, runs, and carries out what came of it. -/
def execute (words : List String) : IO UInt32 := do
  let environment ← IO.getEnv Config.environmentVariable
  let files ← readFiles (readPaths words environment)
  let outcome := CommandLine.run ⟨limits, missingParser, files, environment⟩ words
  writeFiles files outcome.files
  IO.print outcome.output
  if let some text := lastWords outcome.ending then IO.eprintln text
  return UInt32.ofNat outcome.ending.status

end DeclSplit.Program

/-- The program; its exit status is that of the run. -/
def main (words : List String) : IO UInt32 :=
  DeclSplit.Program.execute words
