import DeclSplit.Number.Literal
import DeclSplit.Text.Case
import DeclSplit.Text.Split

/-!
# Names of styles

A style is named by words for attributes and colours.  Two names for one style count as the same,
whichever short forms and whichever order of the words they use.

* `Console.normalizeStyle` — the one name of a style that stands for all its names.
-/

namespace DeclSplit.Console

/-- The attributes of a style, in the order in which they are named. -/
inductive Attribute where
  | bold
  | dim
  | italic
  | underline
  | blink
  | fastBlink
  | reverse
  | conceal
  | strike
  | doubleUnderline
  | frame
  | encircle
  | overline
  deriving DecidableEq, Repr

/-- All attributes with their names and, after them, the short forms of those. -/
def attributeNames : List (Attribute × String × List String) :=
  [(.bold, "bold", ["b"]), (.dim, "dim", ["d"]), (.italic, "italic", ["i"]),
    (.underline, "underline", ["u"]), (.blink, "blink", []), (.fastBlink, "blink2", []),
    (.reverse, "reverse", ["r"]), (.conceal, "conceal", ["c"]), (.strike, "strike", ["s"]),
    (.doubleUnderline, "underline2", ["uu"]), (.frame, "frame", []), (.encircle, "encircle", []),
    (.overline, "overline", ["o"])]

/-- The attribute of a name or a short form. -/
def attribute? (word : String) : Option Attribute :=
  (attributeNames.find? fun (_, name, short) => word = name || short.contains word).map Prod.fst

/-! ### Colours -/

/-- The colours without shades. -/
def plainColors : List String :=
  ["default", "black", "white", "bright_black", "bright_red", "bright_green", "bright_yellow",
    "bright_blue", "bright_magenta", "bright_cyan", "bright_white", "navy_blue", "dark_blue",
    "dark_green", "dark_cyan", "light_sea_green", "dark_turquoise", "medium_spring_green",
    "dark_red", "blue_violet", "cornflower_blue", "cadet_blue", "medium_turquoise",
    "dark_magenta", "dark_violet", "light_slate_grey", "light_slate_gray", "light_slate_blue",
    "light_green", "medium_violet_red", "dark_goldenrod", "rosy_brown", "dark_khaki",
    "green_yellow", "violet", "tan", "light_coral", "sandy_brown"]

/-- The colours with numbered shades, the numbers of the shades, and whether the name stands for a
colour on its own. -/
def shadedColors : List (String × String × Bool) :=
  [("red", "1 3", true), ("green", "1 3 4", true), ("yellow", "1 2 3 4", true),
    ("blue", "1 3", true), ("magenta", "1 2 3", true), ("cyan", "1 2 3", true),
    ("grey",
      "0 3 7 11 15 19 23 27 30 35 37 39 42 46 50 53 54 58 62 63 66 69 70 74 78 82 84 85 89 93 100",
      false),
    ("gray",
      "0 3 7 11 15 19 23 27 30 35 37 39 42 46 50 53 54 58 62 63 66 69 70 74 78 82 84 85 89 93 100",
      false),
    ("deep_sky_blue", "1 2 3 4", false), ("dodger_blue", "1 2 3", false),
    ("spring_green", "1 2 3 4", false), ("turquoise", "2 4", false),
    ("deep_pink", "1 2 3 4", false), ("purple", "3 4", true), ("orange", "1 3 4", false),
    ("medium_purple", "1 2 3 4", true), ("slate_blue", "1 3", false), ("royal_blue", "1", false),
    ("chartreuse", "1 2 3 4", false), ("dark_sea_green", "1 2 3 4", true),
    ("pale_turquoise", "1 4", false), ("steel_blue", "1 3", true), ("sky_blue", "1 2 3", false),
    ("pale_green", "1 3", false), ("sea_green", "1 2 3", false), ("aquamarine", "1 3", false),
    ("dark_slate_gray", "1 2 3", false), ("light_pink", "1 3 4", false),
    ("plum", "1 2 3 4", false), ("wheat", "1 4", false), ("dark_olive_green", "1 2 3", false),
    ("light_sky_blue", "1 3", false), ("dark_orange", "3", true), ("indian_red", "1", true),
    ("hot_pink", "2 3", true), ("medium_orchid", "1 3", true), ("light_salmon", "1 3", false),
    ("gold", "1 3", false), ("navajo_white", "1 3", false), ("light_steel_blue", "1 3", true),
    ("light_cyan", "1 3", false), ("orchid", "1 2", true), ("pink", "1 3", false),
    ("light_goldenrod", "1 2 3", false), ("misty_rose", "1 3", false), ("thistle", "1 3", false),
    ("khaki", "1 3", false), ("light_yellow", "3", false), ("honeydew", "2", false),
    ("orange_red", "1", false), ("salmon", "1", false), ("pale_violet_red", "1", false),
    ("cornsilk", "1", false)]

/-- Whether a word is the name of a colour. -/
def isColorName (word : String) : Bool :=
  plainColors.contains word || shadedColors.any fun (name, shades, alone) =>
    (alone && word == name) || (shades.splitOn " ").any fun shade => word == name ++ shade

/-- What is between brackets after the given word, which closes a text. -/
def argument? (word : String) (text : List Char) : Option (List Char) :=
  let stem := word.toList ++ ['(']
  if stem.isPrefixOf text && text.getLast? == some ')' then
    some (text.drop stem.length).dropLast
  else none

/-- Why a text describes no style. -/
inductive StyleFault where
  /-- It does not have the form of one. -/
  | badForm
  /-- A part of a colour should be a number and is none. -/
  | badNumber
  deriving DecidableEq, Repr

/-- Checks the digits of the number of a colour, at most 255. -/
def checkColorNumber (digits : List Char) : Except StyleFault Unit :=
  if digits.isEmpty || 3 < digits.length || !digits.all Char.isDigit then .error .badForm
  else
    match Number.readInt 10 digits with
    | .ok n => if n ≤ 255 then .ok () else .error .badForm
    | .error _ => .error .badForm

/-- Checks the parts of a colour, three numbers that are at most 255. -/
def checkColorParts (text : List Char) : Except StyleFault Unit := do
  if text.isEmpty || !text.all (fun c => c == ',' || (Text.digitValue? c).isSome) then throw .badForm
  let parts := Text.splitOn ',' text
  if parts.length ≠ 3 then throw .badForm
  let numbers ← parts.mapM fun part => (Number.readInt 10 part).mapError fun _ => StyleFault.badNumber
  if numbers.any (255 < ·) then throw .badForm

/-- Checks that a word without capital letters is a colour: a name, six hexadecimal digits, one number
or three. -/
def checkColor (word : List Char) : Except StyleFault Unit :=
  if isColorName (.ofList word) then .ok ()
  else if word.head? = some '#' ∧ word.length = 7 ∧ (Text.hexNumber? word.tail).isSome then .ok ()
  else
    match argument? "color" word, argument? "rgb" word with
    | some digits, _ => checkColorNumber digits
    | none, some parts => checkColorParts parts
    | none, none => .error .badForm

/-! ### Styles -/

/-- A style: the attributes that are set or unset, the colours and the link. -/
structure Style where
  attributes : List (Attribute × Bool)
  color : Option String
  background : Option String
  link : Option String
  deriving DecidableEq, Repr

namespace Style

/-- The style with nothing set. -/
def plain : Style := ⟨[], none, none, none⟩

/-- The style with an attribute set or unset. -/
def setAttribute (s : Style) (a : Attribute) (value : Bool) : Style :=
  { s with attributes := (a, value) :: s.attributes.filter (·.1 ≠ a) }

/-- The words of a text, in lower case. -/
def words (text : List Char) : List String :=
  let close (word : List Char) (done : List String) : List String :=
    if word.isEmpty then done else String.ofList word :: done
  let (word, done) := text.foldr
    (fun c (word, done) => if Text.isBlank c then ([], close word done) else (c :: word, done))
    (([] : List Char), ([] : List String))
  close word done

/-- The style that words describe, after those already read. -/
def ofWords (s : Style) : List String → Except StyleFault Style
  | [] => .ok s
  | word :: rest =>
    match String.ofList (Text.lower word.toList), rest with
    | "on", color :: rest => do
      let color := Text.lower color.toList
      checkColor color
      ofWords { s with background := some (.ofList color) } rest
    | "not", word :: rest =>
      match attribute? word with
      | some a => ofWords (s.setAttribute a false) rest
      | none => .error .badForm
    | "link", link :: rest => ofWords { s with link := some link } rest
    | word, rest =>
      match attribute? word with
      | some a => ofWords (s.setAttribute a true) rest
      | none => do
        checkColor word.toList
        ofWords { s with color := some word } rest

/-- The name of a style. -/
def name (s : Style) : String :=
  let attributes := attributeNames.filterMap fun (a, name, _) =>
    (s.attributes.lookup a).map fun value => if value then name else "not " ++ name
  let parts := attributes ++ s.color.toList ++ (s.background.map ("on " ++ ·)).toList ++
    (s.link.map ("link " ++ ·)).toList
  if parts.isEmpty then "none" else " ".intercalate parts

end Style

/-- A text without the blanks at both ends. -/
def trim (text : List Char) : List Char :=
  Text.trimEnd (text.dropWhile Text.isBlank)

/-- The style that a text describes. -/
def Style.read (text : List Char) : Except StyleFault Style :=
  if text.isEmpty || trim text = "none".toList then .ok .plain
  else Style.ofWords .plain (Style.words text)

/-- The one name of a style that stands for all its names; a text that does not have the form of a style
stands for itself, in lower case.  There is none where a part of a colour should be a number and is
none. -/
def normalizeStyle (text : List Char) : Option String :=
  match Style.read text with
  | .ok style => some style.name
  | .error .badForm => some (.ofList (Text.lower (trim text)))
  | .error .badNumber => none

end DeclSplit.Console
