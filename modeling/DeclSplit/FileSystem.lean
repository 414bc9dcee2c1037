import DeclSplit.Path
import DeclSplit.Text.Quoted

/-!
# File systems

A file system as a value: what there is below the root, what the files contain, and which directory is
the working one.  A file is not the same as its name: it has a number, and all names with this number
are names of it.  Symbolic links stand for other paths, and a device takes what is written to it and
keeps nothing.

Not all that happens follows from the files.  The system around them may refuse what is asked of it,
and it may break off while it writes to an open file.

* `FileSystem` — file systems;
* `FileSystem.Host` — what the system decides beside the files;
* `FileSystem.locate`, `FileSystem.locateName` — where the text of a path leads;
* `FileSystem.readFile`, `FileSystem.writeFile`, `FileSystem.makeDirectory`,
  `FileSystem.makeDirectories` — the operations;
* `FileSystem.Error` — why an operation failed, with its wording.
-/

namespace DeclSplit

/-- The number of a file, which all of its names share. -/
abbrev FileSystem.FileId := Nat

/-- The names of the directories from the root to a place, and its own name. -/
abbrev FileSystem.Location := List String

/-- What there is at a place. -/
inductive FileSystem.Entry where
  /-- A name of a file. -/
  | file (id : FileSystem.FileId)
  | directory
  /-- A symbolic link, which stands for the path `target` as seen from its directory. -/
  | link (target : String)
  /-- A device that keeps nothing of what is written to it; `output` is what is read from it. -/
  | device (output : List UInt8)
  deriving DecidableEq, Repr, Inhabited

/-- What there is below the root, which itself is a directory, and what the files contain. -/
structure FileSystem.Files where
  entries : List (FileSystem.Location × FileSystem.Entry)
  contents : List (FileSystem.FileId × List UInt8)
  deriving DecidableEq, Repr, Inhabited

namespace FileSystem

/-! ### Errors -/

/-- Why an operation failed. -/
inductive Cause where
  /-- There is nothing at the path, or a directory on the way is missing. -/
  | notFound
  /-- There is something at the path already. -/
  | alreadyExists
  /-- Something on the way is no directory. -/
  | notADirectory
  /-- There is a directory at the path. -/
  | isADirectory
  /-- The path or a component of it is too long. -/
  | nameTooLong
  /-- There are too many links on the way. -/
  | tooManyLinks
  /-- The path holds the character that ends a text for the system. -/
  | nullCharacter
  /-- The system has a reason of its own, as want of permission or of space. -/
  | system (number : Nat) (wording : String)
  deriving DecidableEq, Repr

/-- A failed operation: why, and the path as it was given, if the cause has to do with it. -/
structure Error where
  cause : Cause
  path : Option String
  deriving DecidableEq, Repr

/-- The number that systems have for a cause; a path that cannot be handed to the system has none. -/
def Cause.number? : Cause → Option Nat
  | .notFound => some 2
  | .alreadyExists => some 17
  | .notADirectory => some 20
  | .isADirectory => some 21
  | .nameTooLong => some 36
  | .tooManyLinks => some 40
  | .nullCharacter => none
  | .system number _ => some number

/-- The wording of a cause. -/
def Cause.wording : Cause → String
  | .notFound => "No such file or directory"
  | .alreadyExists => "File exists"
  | .notADirectory => "Not a directory"
  | .isADirectory => "Is a directory"
  | .nameTooLong => "File name too long"
  | .tooManyLinks => "Too many levels of symbolic links"
  | .nullCharacter => "embedded null byte"
  | .system _ wording => wording

/-- Whether the cause only says that there is nothing at a path. -/
def Cause.isAbsence : Cause → Bool
  | .notFound | .notADirectory | .tooManyLinks | .nullCharacter => true
  | _ => false

/-- The wording of an error. -/
def Error.message (e : Error) : String :=
  match e.cause.number?, e.path with
  | some number, some path => s!"[Errno {number}] {e.cause.wording}: {Text.quoted path}"
  | some number, none => s!"[Errno {number}] {e.cause.wording}"
  | none, _ => e.cause.wording

/-! ### The system -/

/-- What is asked of the system for a path. -/
inductive Request where
  | look
  | read
  | write
  | makeDirectory
  deriving DecidableEq, Repr

/-- What the system decides beside the files. -/
structure Host where
  /-- Why a request is refused before the files are looked at, if it is. -/
  refusal? : Files → Request → String → Option Cause
  /-- After how many bytes the writing of contents to an open file breaks off and why, if it does. -/
  interruption? : Files → String → List UInt8 → Option (Nat × Cause)

/-- The system that refuses nothing and breaks off nothing. -/
def Host.willing : Host := ⟨fun _ _ _ => none, fun _ _ _ => none⟩

end FileSystem

/-- What there is below the root, what the files contain, the working directory, and the system
around them. -/
structure FileSystem extends FileSystem.Files where
  workingDirectory : FileSystem.Location
  host : FileSystem.Host := .willing

namespace FileSystem

instance : Inhabited FileSystem := ⟨⟨default, [], .willing⟩⟩

/-! ### Looking -/

/-- What there is at a location. -/
def get? (fs : FileSystem) (location : Location) : Option Entry :=
  if location = [] then some .directory else fs.entries.lookup location

/-- The contents of a file. -/
def bytes (fs : FileSystem) (id : FileId) : List UInt8 :=
  (fs.contents.lookup id).getD []

/-- The number of bytes that a component of a path has at most. -/
def maxNameBytes : Nat := 255

/-- The number of bytes that a path has at most. -/
def maxPathBytes : Nat := 4095

/-- The number of links that are followed at most on the way of one path. -/
def maxLinks : Nat := 40

/-- The location after one more component of a path, which is only looked up in a directory. -/
def enter (fs : FileSystem) (location : Location) (component : List Char) :
    Except Cause Location :=
  match fs.get? location with
  | none => .error .notFound
  | some .directory =>
    if component = [] ∨ component = ['.'] then .ok location
    else if component = ['.', '.'] then .ok location.dropLast
    else if maxNameBytes < (String.ofList component).utf8ByteSize then .error .nameTooLong
    else .ok (location ++ [.ofList component])
  | some _ => .error .notADirectory

/-- Where a path starts: at the root if its first character is a slash, else in the directory. -/
def startOf (directory : Location) (path : String) : Location :=
  if path.toList.head? = some '/' then [] else directory

/-- Follows the components of a path.  Where one is a link, `detour` follows those of the link and then
those that are left.  `atEnd` says whether the last component is followed if it is a link. -/
def followWith (fs : FileSystem) (atEnd : Bool)
    (detour : Location → List (List Char) → Except Cause Location) :
    Location → List (List Char) → Except Cause Location
  | location, [] => .ok location
  | location, component :: rest => do
    let next ← fs.enter location component
    match fs.get? next with
    | some (.link target) =>
      if rest = [] ∧ !atEnd then .ok next
      else detour (startOf next.dropLast target) (Text.splitOn '/' target.toList ++ rest)
    | _ => followWith fs atEnd detour next rest

/-- Follows the components of a path over at most so many links. -/
def follow (fs : FileSystem) (atEnd : Bool) :
    (links : Nat) → Location → List (List Char) → Except Cause Location
  | 0 => fs.followWith atEnd fun _ _ => .error .tooManyLinks
  | links + 1 => fs.followWith atEnd (fs.follow atEnd links)

/-- Where the text of a path leads; `atEnd` says whether it goes on if there is a link at its end. -/
def locateBy (fs : FileSystem) (atEnd : Bool) (path : String) : Except Cause Location :=
  if path.toList.contains '\x00' then .error .nullCharacter
  else if maxPathBytes < path.utf8ByteSize then .error .nameTooLong
  else if path = "" then .error .notFound
  else
    fs.follow atEnd maxLinks (startOf fs.workingDirectory path) (Text.splitOn '/' path.toList)

/-- Where a path leads; there need not be anything at the location itself. -/
def locate (fs : FileSystem) (path : String) : Except Cause Location :=
  fs.locateBy true path

/-- Where the last name of a path stands; it may be the name of a link. -/
def locateName (fs : FileSystem) (path : String) : Except Cause Location :=
  fs.locateBy false path

/-- What there is where a path leads. -/
def find (fs : FileSystem) (path : String) : Except Cause Entry := do
  let location ← fs.locate path
  match fs.get? location with
  | some entry => .ok entry
  | none => .error .notFound

/-- Asks the system for something, which may be refused. -/
def ask (fs : FileSystem) (request : Request) (path : String) : Except Cause Unit :=
  match fs.host.refusal? fs.toFiles request path with
  | some cause => .error cause
  | none => .ok ()

/-- Looks at what there is where a path leads. -/
def look (fs : FileSystem) (path : String) : Except Cause Entry := do
  fs.ask .look path
  fs.find path

/-- Whether what there is where a path leads passes a test, if anything is there. -/
def isThere (fs : FileSystem) (test : Entry → Bool) (path : String) : Except Error Bool :=
  match fs.look path with
  | .ok entry => .ok (test entry)
  | .error cause => if cause.isAbsence then .ok false else .error ⟨cause, some path⟩

/-- Whether an entry is a name of a file. -/
def Entry.isFile : Entry → Bool
  | .file _ => true
  | _ => false

/-- Whether a path leads to a file. -/
def isFile (fs : FileSystem) (path : String) : Except Error Bool :=
  fs.isThere Entry.isFile path

/-- Whether a path leads to a directory. -/
def isDirectory (fs : FileSystem) (path : String) : Except Error Bool :=
  fs.isThere (· = .directory) path

/-- What is read where a path leads. -/
def readFile (fs : FileSystem) (path : String) : Except Error (List UInt8) :=
  match (do fs.ask .read path; fs.find path) with
  | .error cause => .error ⟨cause, some path⟩
  | .ok (.file id) => .ok (fs.bytes id)
  | .ok (.device output) => .ok output
  | .ok .directory => .error ⟨.isADirectory, some path⟩
  | .ok (.link _) => .error ⟨.tooManyLinks, some path⟩

/-! ### Changing -/

/-- The pairs with one put under a key, in the place of the one that was there. -/
def putPair {κ α : Type} [DecidableEq κ] (key : κ) (value : α) : List (κ × α) → List (κ × α)
  | [] => [(key, value)]
  | (k, a) :: rest => if k = key then (key, value) :: rest else (k, a) :: putPair key value rest

/-- The file system with an entry at a location. -/
def put (fs : FileSystem) (location : Location) (entry : Entry) : FileSystem :=
  { fs with entries := putPair location entry fs.entries }

/-- The file system with other contents of a file. -/
def setBytes (fs : FileSystem) (id : FileId) (contents : List UInt8) : FileSystem :=
  { fs with contents := putPair id contents fs.contents }

/-- A number above that of the file with the name, if it is one. -/
def Entry.above : Entry → Nat
  | .file id => id + 1
  | _ => 0

/-- A number that no file has. -/
def freshId (fs : FileSystem) : FileId :=
  (fs.entries.map fun (_, entry) => entry.above).foldr max 0

/-- The file system with a new file at a location. -/
def create (fs : FileSystem) (location : Location) (contents : List UInt8) : FileSystem :=
  (fs.put location (.file fs.freshId)).setBytes fs.freshId contents

/-- Opens the file at a path for writing, and gives its number; a device has none.  A file that is there
is emptied, and a new one is made where nothing is. -/
def openFile (fs : FileSystem) (path : String) : Except Error (FileSystem × Option FileId) :=
  match (do fs.ask .write path; fs.locate path) with
  | .error cause => .error ⟨cause, some path⟩
  | .ok location =>
    match fs.get? location with
    | some .directory => .error ⟨.isADirectory, some path⟩
    | some (.link _) => .error ⟨.tooManyLinks, some path⟩
    | some (.device _) => .ok (fs, none)
    | some (.file id) => .ok (fs.setBytes id [], some id)
    | none => .ok (fs.create location [], some fs.freshId)

/-- What was written to an open file or to a device. -/
def fill (fs : FileSystem) (contents : List UInt8) : Option FileId → FileSystem
  | some id => fs.setBytes id contents
  | none => fs

/-- Writes contents to the file at a path, in the place of what it contained, and says what failed.  If
the writing breaks off, the bytes before that stay. -/
def writeFile (fs : FileSystem) (path : String) (contents : List UInt8) :
    FileSystem × Option Error :=
  match fs.openFile path with
  | .error e => (fs, some e)
  | .ok (opened, id) =>
    match opened.host.interruption? opened.toFiles path contents with
    | none => (opened.fill contents id, none)
    | some (taken, cause) => (opened.fill (contents.take taken) id, some ⟨cause, none⟩)

/-- Makes one directory, whose own directory must be there. -/
def makeDirectory (fs : FileSystem) (path : String) : Except Error FileSystem :=
  match (do fs.ask .makeDirectory path; fs.locateName path) with
  | .error cause => .error ⟨cause, some path⟩
  | .ok location =>
    match fs.get? location with
    | some _ => .error ⟨.alreadyExists, some path⟩
    | none => .ok (fs.put location .directory)

/-- What comes of trying to make a directory: it does no harm to fail if the directory is there. -/
def settle (fs : FileSystem) (path : String) : Except Error FileSystem → FileSystem × Option Error
  | .ok made => (made, none)
  | .error e =>
    if e.cause = .notFound ∨ e.cause = .nullCharacter then (fs, some e)
    else
      match fs.isDirectory path with
      | .ok true => (fs, none)
      | .ok false => (fs, some e)
      | .error e => (fs, some e)

/-- Makes the directory whose components, last first, are given, and those on the way to it that
are missing.  Directories that were made stay when a later one fails. -/
def makeDirectoriesAt (root : Path.Root) (fs : FileSystem) :
    List String → FileSystem × Option Error
  | [] =>
    let path := Path.toString ⟨root, []⟩
    fs.settle path (fs.makeDirectory path)
  | name :: outer =>
    let path := Path.toString ⟨root, (name :: outer).reverse⟩
    match fs.makeDirectory path with
    | .error ⟨.notFound, _⟩ =>
      match makeDirectoriesAt root fs outer with
      | (fs, some e) => (fs, some e)
      | (fs, none) => fs.settle path (fs.makeDirectory path)
    | made => fs.settle path made

/-- Makes a directory and those on the way to it that are missing, and says what failed. -/
def makeDirectories (fs : FileSystem) (path : Path) : FileSystem × Option Error :=
  makeDirectoriesAt path.root fs path.components.reverse

end FileSystem

end DeclSplit
