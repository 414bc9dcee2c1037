import DeclSplit.CommandLine.Options
import DeclSplit.Text.Quoted
import DeclSplit.Text.Terminal

/-!
# How the program is used

* `CommandLine.CommandName` — the commands;
* `CommandLine.UsageError` — what can be wrong with a command line, with its wording;
* `CommandLine.helpPage` — what the program says of itself and of its commands.
-/

namespace DeclSplit.CommandLine

/-- The commands of the program. -/
inductive CommandName where
  | decode
  | ir
  | parse
  | segment
  deriving DecidableEq, Repr

namespace CommandName

/-- The word for a command. -/
def word : CommandName → String
  | .decode => "decode"
  | .ir => "ir"
  | .parse => "parse"
  | .segment => "segment"

/-- All commands. -/
def all : List CommandName :=
  [decode, ir, parse, segment]

/-- The words for all commands. -/
def words : List String :=
  all.map word

/-- The command of a word. -/
def ofWord? (word : String) : Option CommandName :=
  all.find? fun name => name.word == word

/-- How the argument of a command is shown. -/
def argument : CommandName → String
  | .decode => "WIRE_FILE"
  | .ir | .parse | .segment => "[SOURCE]"

end CommandName

/-- The name of the program, and its version. -/
def programName : String := "main"

/-- The version of the program. -/
def version : String := "0.1.0"

/-- How the program or one of its commands is called. -/
def usageLine : Option CommandName → String
  | none => s!"Usage: {programName} [OPTIONS] COMMAND [ARGS]..."
  | some name => s!"Usage: {programName} {name.word} [OPTIONS] {name.argument}"

/-- Where to find help on the program or one of its commands. -/
def helpHint (command : Option CommandName) : String :=
  let words := " ".intercalate (programName :: (command.map CommandName.word).toList)
  s!"Try '{words} --help' for help."

/-! ### Errors -/

/-- What can be wrong with a command line. -/
inductive UsageFault where
  | option (error : OptionError)
  | noSuchCommand (word : String) (near : List String)
  | missingCommand
  | missingArgument (argument : String)
  | noSuchFile (argument path : String)
  | isADirectory (argument path : String)
  | notReadable (argument path : String)
  | extraArguments (words : List String)
  deriving DecidableEq, Repr

/-- A fault and the command in whose words it is. -/
structure UsageError where
  command : Option CommandName
  fault : UsageFault
  deriving DecidableEq, Repr

/-- The question whether one of some words is meant. -/
def suggestion (near : List String) : String :=
  match near.map Text.quoted with
  | [] => ""
  | [word] => s!" Did you mean {word}?"
  | words =>
    let shown := ", ".intercalate words
    s!" (Did you mean one of: {shown}?)"

/-- The wording of a fault. -/
def UsageFault.message : UsageFault → String
  | .option (.unknown name near) => s!"No such option {Text.quoted name}." ++ suggestion near
  | .option (.missingValue name) => s!"Option {Text.quoted name} requires an argument."
  | .option (.unexpectedValue name) => s!"Option {Text.quoted name} does not take a value."
  | .noSuchCommand word near => s!"No such command {Text.quoted word}." ++ suggestion near
  | .missingCommand => "Missing command."
  | .missingArgument argument => s!"Missing argument '{argument}'."
  | .noSuchFile argument path =>
    s!"Invalid value for '{argument}': File {Text.quoted path} does not exist."
  | .isADirectory argument path =>
    s!"Invalid value for '{argument}': File {Text.quoted path} is a directory."
  | .notReadable argument path =>
    s!"Invalid value for '{argument}': File {Text.quoted path} is not readable."
  | .extraArguments words =>
    let noun := if words.length = 1 then "argument" else "arguments"
    let shown := " ".intercalate words
    s!"Got unexpected extra {noun} ({shown})"

/-- Whether the usage is shown with a fault; it is not for a wrong use of an option that there is. -/
def UsageFault.showsUsage : UsageFault → Bool
  | .option (.missingValue _) | .option (.unexpectedValue _) => false
  | _ => true

/-- The lines that are printed for an error.  What words hold for a terminal is left out of them. -/
def UsageError.lines (e : UsageError) : List (List Char) :=
  let usage :=
    if e.fault.showsUsage then [usageLine e.command, helpHint e.command, ""] else []
  let message := Text.joinLineEnds (Text.withoutStyling s!"Error: {e.fault.message}".toList)
  usage.map String.toList ++ [message]

/-! ### Help -/

/-- What a command does. -/
def CommandName.summary : CommandName → String
  | .decode => "Decode a protobuf AST file and print it."
  | .ir => "Build the IR tree for SOURCE and save it as JSON."
  | .parse => "Parse SOURCE and save its AST in protobuf wire format."
  | .segment => "Split SOURCE into per-declaration IR segments with resolved dependencies."

/-- What the options of a command do, with their names. -/
def optionHelp : Option CommandName → List (String × String)
  | none =>
    [("--version", "Show the version and exit."),
      ("-c, --config TEXT", "Pipeline config YAML file"),
      ("-v, --verbose", "Enable debug logging")]
  | some .parse => [("--show", "Print the parsed AST")]
  | some .ir => [("--optimize / --no-optimize", "Prune block wrappers")]
  | some .segment | some .decode => []

/-- Lines of two columns, the second one below itself. -/
def twoColumns (rows : List (String × String)) : List String :=
  let size := (rows.map fun row => row.1.length).foldl max 0
  rows.map fun row =>
    "  " ++ row.1 ++ String.ofList (List.replicate (size - row.1.length + 2) ' ') ++ row.2

/-- What the program says of itself or of one of its commands. -/
def helpPage (command : Option CommandName) : List String :=
  let about :=
    match command with
    | none => "astseg — turn a C file's clang AST into segmented IR."
    | some name => name.summary
  let options := optionHelp command ++ [("--help", "Show this message and exit.")]
  let commands :=
    match command with
    | none =>
      ["", "Commands:"] ++
        twoColumns (CommandName.all.map fun name =>
          (name.word, name.summary))
    | some _ => []
  [usageLine command, "", "  " ++ about, "", "Options:"] ++ twoColumns options ++ commands

end DeclSplit.CommandLine
