import DeclSplit.CommandLine.Usage
import DeclSplit.FileSystem

/-!
# What a command line asks for

The words before the command are read first, and those after it only when the configuration is
known.

* `CommandLine.Request`, `CommandLine.readRequest` — what the words before the command ask for;
* `CommandLine.Command`, `CommandLine.readCommand` — what the words after it ask for.
-/

namespace DeclSplit.CommandLine

/-! ### Before the command -/

/-- What an option before the command sets. -/
inductive MainSetting where
  | version
  | config
  | verbose
  | help
  deriving DecidableEq, Repr

/-- The options before the command. -/
def mainOptions : List (OptionSpec MainSetting) :=
  [⟨.version, ["--version"], false⟩, ⟨.config, ["-c", "--config"], true⟩,
    ⟨.verbose, ["-v", "--verbose"], false⟩, ⟨.help, ["--help"], false⟩]

/-- What the words before the command ask for. -/
inductive Request where
  | version
  /-- A page about the program; `complete` says whether it was asked for. -/
  | help (complete : Bool)
  /-- To run a command with the words after it; `config` is the file with the configuration, if one is
  named. -/
  | run (config : Option String) (command : CommandName) (words : List String)
  deriving DecidableEq, Repr

/-- The first request for the version or for help among options. -/
def pageRequest? (options : List (MainSetting × Option String)) : Option Request :=
  options.findSome? fun
    | (.version, _) => some .version
    | (.help, _) => some (.help true)
    | _ => none

/-- The value of the last option with a setting. -/
def lastValue? {σ : Type} [DecidableEq σ] (setting : σ) (options : List (σ × Option String)) :
    Option String :=
  options.foldl (fun found (s, value) => if s = setting then value else found) none

/-- The options and the arguments of the program itself. -/
def readMainWords (words : List String) : Except UsageError (Words MainSetting) :=
  (readWords mainOptions false words).mapError fun e => ⟨none, .option e⟩

/-- What a command line asks for.  A word that is no command may still hold options. -/
def readRequest (words : List String) : Except UsageError Request := do
  if words.isEmpty then return .help false
  let read ← readMainWords words
  match pageRequest? read.options with
  | some page => return page
  | none =>
    match read.arguments with
    | [] => throw ⟨none, .missingCommand⟩
    | word :: rest =>
      match CommandName.ofWord? word with
      | some command => return .run (lastValue? .config read.options) command rest
      | none =>
        let again ← readMainWords (word :: rest)
        match pageRequest? again.options with
        | some page => return page
        | none => throw ⟨none, .noSuchCommand word (Text.nearest word CommandName.words)⟩

/-! ### After the command -/

/-- What an option after the command sets. -/
inductive CommandSetting where
  | showTree
  | optimize
  | keep
  | help
  deriving DecidableEq, Repr

/-- The options after a command. -/
def commandOptions (command : CommandName) : List (OptionSpec CommandSetting) :=
  let own : List (OptionSpec CommandSetting) :=
    match command with
    | .parse => [⟨.showTree, ["--show"], false⟩]
    | .ir => [⟨.optimize, ["--optimize"], false⟩, ⟨.keep, ["--no-optimize"], false⟩]
    | .segment | .decode => []
  own ++ [⟨.help, ["--help"], false⟩]

/-- What is to be done. -/
inductive Command where
  /-- To parse a source file; `showTree` says whether its tree is printed. -/
  | parse (source : String) (showTree : Bool)
  /-- To build the tree of a source file; `optimize` says whether grouping nodes are left out. -/
  | ir (source : String) (optimize : Bool)
  /-- To split a source file. -/
  | segment (source : String)
  /-- To print the tree in a file. -/
  | decode (file : String)
  /-- To print a page about a command. -/
  | help (command : CommandName)
  deriving DecidableEq, Repr

/-- The source file if none is given. -/
def usualSource : String := "test.c"

/-- Why the words after a command ask for nothing that can be done. -/
inductive Refusal where
  /-- They are not the words that the command has. -/
  | usage (error : UsageError)
  /-- No file can have the path that is given. -/
  | path (error : FileSystem.Error)
  deriving DecidableEq, Repr

/-- What the words after a command ask for, before it is known whether there are too many of
them. -/
def commandOf (fs : FileSystem) (command : CommandName) (words : Words CommandSetting) :
    Except Refusal Command :=
  let refuse (fault : UsageFault) : Except Refusal Command := .error (.usage ⟨some command, fault⟩)
  let given (setting : CommandSetting) : Bool := words.options.any (·.1 = setting)
  let source := words.arguments.headD usualSource
  if given .help then .ok (.help command)
  else
    match command with
    | .parse => .ok (.parse source (given .showTree))
    | .ir =>
      let last := (words.options.map Prod.fst).getLast?
      .ok (.ir source (last ≠ some .keep))
    | .segment => .ok (.segment source)
    | .decode =>
      match words.arguments with
      | [] => refuse (.missingArgument command.argument)
      | path :: _ =>
        match fs.look path with
        | .error .nullCharacter => .error (.path ⟨.nullCharacter, some path⟩)
        | .error _ => refuse (.noSuchFile command.argument path)
        | .ok .directory => refuse (.isADirectory command.argument path)
        | .ok _ =>
          match fs.ask .read path with
          | .error _ => refuse (.notReadable command.argument path)
          | .ok () => .ok (.decode path)

/-- What the words after a command ask for.  Each command has at most one argument. -/
def readCommand (fs : FileSystem) (command : CommandName) (words : List String) :
    Except Refusal Command := do
  let read ← (readWords (commandOptions command) true words).mapError fun e =>
    .usage ⟨some command, .option e⟩
  let asked ← commandOf fs command read
  match asked, read.arguments.drop 1 with
  | .help _, _ | _, [] => return asked
  | _, extra => throw (.usage ⟨some command, .extraArguments extra⟩)

end DeclSplit.CommandLine
