import DeclSplit.Text.Similar

/-!
# Options and arguments

The words of a command line are options, their values and other arguments.  An option has short names
of one letter after a dash and long names after two dashes.  Short names can share a dash; a value
stands in the same word or is the next one.  A word of two dashes ends the options.

* `CommandLine.OptionSpec` — an option that a command has;
* `CommandLine.readWords` — the options and the arguments in the words after a command;
* `CommandLine.OptionError` — what can be wrong with them.
-/

namespace DeclSplit.CommandLine

/-- An option of a command: what it sets, its names with their dashes, and whether it has a value. -/
structure OptionSpec (σ : Type) where
  setting : σ
  names : List String
  hasValue : Bool

/-- What can be wrong with an option. -/
inductive OptionError where
  /-- There is no option of this name; `near` are names that are like it. -/
  | unknown (name : String) (near : List String)
  /-- The value of the option is missing. -/
  | missingValue (name : String)
  /-- The option has no value, but one is given. -/
  | unexpectedValue (name : String)
  deriving DecidableEq, Repr

/-- The options of a command in order, each with its value if it has one, and the other arguments. -/
structure Words (σ : Type) where
  options : List (σ × Option String)
  arguments : List String

/-- What a word with options holds: the options that are complete, and the setting and the name of one
whose value is the next word. -/
structure OptionWord (σ : Type) where
  complete : List (σ × Option String)
  waiting : Option (σ × String)

variable {σ : Type}

/-- The option of a name. -/
def findOption (specs : List (OptionSpec σ)) (name : String) (near : List String) :
    Except OptionError (OptionSpec σ) :=
  match specs.find? fun spec => spec.names.contains name with
  | some spec => .ok spec
  | none => .error (.unknown name near)

/-- The long names of options. -/
def longNames (specs : List (OptionSpec σ)) : List String :=
  (specs.flatMap OptionSpec.names).filter (·.startsWith "--")

/-- The option in a word with a long name; a value can follow an equals sign. -/
def readLong (specs : List (OptionSpec σ)) (word : List Char) :
    Except OptionError (OptionWord σ) := do
  let name := String.ofList (word.takeWhile (· != '='))
  let spec ← findOption specs name (Text.nearest name (longNames specs))
  match spec.hasValue, word.dropWhile (· != '=') with
  | true, [] => .ok ⟨[], some (spec.setting, name)⟩
  | true, _ :: value => .ok ⟨[(spec.setting, some (.ofList value))], none⟩
  | false, [] => .ok ⟨[(spec.setting, none)], none⟩
  | false, _ => .error (.unexpectedValue name)

/-- The options in the letters after a dash; what follows the letter of an option with a value is the
value. -/
def readLetters (specs : List (OptionSpec σ)) : List Char → Except OptionError (OptionWord σ)
  | [] => .ok ⟨[], none⟩
  | c :: rest => do
    let name := String.ofList ['-', c]
    let spec ← findOption specs name []
    match spec.hasValue, rest with
    | true, [] => .ok ⟨[], some (spec.setting, name)⟩
    | true, value => .ok ⟨[(spec.setting, some (.ofList value))], none⟩
    | false, rest =>
      let more ← readLetters specs rest
      .ok { more with complete := (spec.setting, none) :: more.complete }

/-- The options in a word, if it is a word with options. -/
def readOptionWord? (specs : List (OptionSpec σ)) (word : String) :
    Option (Except OptionError (OptionWord σ)) :=
  match word.toList with
  | '-' :: '-' :: _ => some (readLong specs word.toList)
  | '-' :: c :: rest => some (readLetters specs (c :: rest))
  | _ => none

/-- The options and the arguments in words; `mixed` says whether options can come after
arguments. -/
def readWords (specs : List (OptionSpec σ)) (mixed : Bool) :
    List String → Except OptionError (Words σ)
  | [] => .ok ⟨[], []⟩
  | word :: rest =>
    if word = "--" then .ok ⟨[], rest⟩
    else
      match readOptionWord? specs word with
      | none =>
        if mixed then do
          let words ← readWords specs mixed rest
          .ok { words with arguments := word :: words.arguments }
        else .ok ⟨[], word :: rest⟩
      | some (.error e) => .error e
      | some (.ok ⟨complete, none⟩) => do
        let words ← readWords specs mixed rest
        .ok { words with options := complete ++ words.options }
      | some (.ok ⟨complete, some (setting, name)⟩) =>
        match rest with
        | [] => .error (.missingValue name)
        | value :: rest => do
          let words ← readWords specs mixed rest
          .ok { words with options := complete ++ (setting, some value) :: words.options }

end DeclSplit.CommandLine
