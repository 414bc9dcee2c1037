import DeclSplit.Console.Emoji.Table
import DeclSplit.Text.Blank
import DeclSplit.Text.Case
import DeclSplit.Text.Hex

/-!
# Pictographs by name

A name between colons stands for a pictograph.  `-text` or `-emoji` after the name asks for the plain
or for the coloured form of it.

* `Console.Emoji.find?` — the pictograph of a name;
* `Console.withEmoji` — a text with pictographs in place of their names.
-/

namespace DeclSplit.Console

namespace Emoji

/-- A pictograph with names for it. -/
structure Entry where
  characters : List Char
  names : List String

/-- The characters that have these numbers, in hexadecimal digits with hyphens between them. -/
def charactersOf (code : String) : List Char :=
  (code.splitOn "-").filterMap fun digits => (Text.hexNumber? digits.toList).map Char.ofNat

/-- The flag of the region with these letters. -/
def flagOf (region : String) : List Char :=
  region.toList.map fun c => Char.ofNat (0x1f1e6 + (c.toNat - 'a'.toNat))

/-- The entries of a table, one a line. -/
def entriesOf (table : String) : List Entry :=
  (table.splitOn "\n").filterMap fun line =>
    match line.splitOn " " with
    | code :: names => some ⟨charactersOf code, names⟩
    | [] => none

/-- The entries for the flags. -/
def flagEntries : List Entry :=
  (flags.splitOn "\n").filterMap fun line =>
    match line.splitOn " " with
    | [region, name] => some ⟨flagOf region, [name, "flag_for_" ++ name]⟩
    | _ => none

/-- The entries whose names can be given a skin tone. -/
def tonedEntries : List Entry :=
  entriesOf toned

/-- All entries. -/
def entries : List Entry :=
  entriesOf symbols ++ entriesOf pictographs ++ entriesOf sequences ++ tonedEntries ++ flagEntries

/-- The pictograph with a name among some entries. -/
def findIn? (entries : List Entry) (name : String) : Option (List Char) :=
  (entries.find? (·.names.contains name)).map Entry.characters

/-- The ends of names that ask for a skin tone, with the character for it. -/
def tones : List (String × Char) :=
  [("_light_skin_tone", Char.ofNat 0x1f3fb), ("_medium-light_skin_tone", Char.ofNat 0x1f3fc),
    ("_medium_skin_tone", Char.ofNat 0x1f3fd), ("_medium-dark_skin_tone", Char.ofNat 0x1f3fe),
    ("_dark_skin_tone", Char.ofNat 0x1f3ff)]

/-- A pictograph with a skin tone, which takes the place of the selector after its first
character. -/
def withTone (tone : Char) : List Char → List Char
  | c :: '\ufe0f' :: rest => c :: tone :: rest
  | c :: rest => c :: tone :: rest
  | [] => []

/-- A name without the given end, if it has that end. -/
def withoutEnd? (ending : String) (name : List Char) : Option (List Char) :=
  if ending.toList.isSuffixOf name then some (name.take (name.length - ending.length)) else none

/-- The pictograph with a name. -/
def find? (name : List Char) : Option (List Char) :=
  findIn? entries (.ofList name) <|> tones.findSome? fun (ending, tone) => do
    let plain ← withoutEnd? ending name
    return withTone tone (← findIn? tonedEntries (.ofList plain))

/-- The ends of names that ask for a form, with the character for it. -/
def forms : List (String × Char) :=
  [("-text", '\ufe0e'), ("-emoji", '\ufe0f')]

/-- The pictograph that a name stands for, in the form that it asks for. -/
def named? (name : List Char) : Option (List Char) :=
  match forms.findSome? fun (ending, form) => (withoutEnd? ending name).map (·, form) with
  | some (name, form) => (find? (Text.lower name)).map (· ++ [form])
  | none => find? (Text.lower name)

end Emoji

/-- A text, of which at most `steps` signs are read, with pictographs in place of their names. -/
def withEmojiFrom : (steps : Nat) → List Char → List Char
  | 0, text => text
  | _, [] => []
  | steps + 1, c :: rest =>
    if c = ':' then
      let name := rest.takeWhile fun c => c ≠ ':' && !Text.isBlank c
      match rest.drop name.length with
      | ':' :: after =>
        (Emoji.named? name).getD (':' :: name ++ [':']) ++ withEmojiFrom steps after
      | _ => c :: withEmojiFrom steps rest
    else c :: withEmojiFrom steps rest

/-- A text with pictographs in place of their names between colons. -/
def withEmoji (text : List Char) : List Char :=
  withEmojiFrom text.length text

end DeclSplit.Console
