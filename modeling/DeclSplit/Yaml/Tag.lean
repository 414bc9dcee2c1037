import DeclSplit.Text.Pattern

/-!
# Tags

A tag says what kind of value a node has.  A plain scalar without a tag has the one that its text
matches.

* `Yaml.Tag` — the tags of the standard types;
* `Yaml.Tag.ofName` — the tag of a full name;
* `Yaml.Tag.ofPlain` — the tag of a plain scalar.
-/

namespace DeclSplit.Yaml

open Text (Pattern)

/-- What kind of value a node has. -/
inductive Tag where
  | null
  | bool
  | int
  | float
  | binary
  | timestamp
  | str
  | seq
  /-- A sequence of mappings with one entry each. -/
  | orderedMap
  /-- The same; a key can come more than once. -/
  | pairs
  | set
  | map
  /-- The key whose value is merged into the mapping around it. -/
  | merge
  /-- The key of the value that a mapping stands for. -/
  | value
  /-- A tag of no standard type. -/
  | unknown
  deriving DecidableEq, Repr

namespace Tag

/-- The start of the names of the standard types. -/
def stem : String := "tag:yaml.org,2002:"

/-- The tags of the standard types by the ends of their names. -/
def standard : List (String × Tag) :=
  [("null", .null), ("bool", .bool), ("int", .int), ("float", .float), ("binary", .binary),
    ("timestamp", .timestamp), ("str", .str), ("seq", .seq), ("omap", .orderedMap),
    ("pairs", .pairs), ("set", .set), ("map", .map), ("merge", .merge), ("value", .value)]

/-- The tag of a full name. -/
def ofName (name : List Char) : Tag :=
  ((standard.find? fun entry => (stem ++ entry.1).toList == name).map Prod.snd).getD .unknown

/-- Whether the values of a tag hold other values. -/
def isCollection : Tag → Bool
  | .seq | .orderedMap | .pairs | .set | .map => true
  | _ => false

/-! ### Plain scalars -/

/-- The patterns of the given texts. -/
def words (texts : List String) : Pattern :=
  .any (texts.map fun text => .ofText text.toList)

/-- A sign, if there is one. -/
def sign : Pattern :=
  .optional (.oneOf ['+', '-'])

/-- Digits and underscores, of which there may be none. -/
def moreDigits : Pattern :=
  .star (.char fun c => c.isDigit || c == '_')

/-- A digit with digits and underscores after it. -/
def someDigits : Pattern :=
  .seq .digit moreDigits

/-- A digit other than zero with digits and underscores after it. -/
def leadingDigits : Pattern :=
  .seq (.char fun c => c.isDigit && c != '0') moreDigits

/-- Further places of a number in base sixty. -/
def sexagesimal : Pattern :=
  .many (.all [.oneOf [':'], .optional (.char fun c => '0' ≤ c && c ≤ '5'), .digit])

/-- The truth values. -/
def boolPattern : Pattern :=
  words ["yes", "Yes", "YES", "no", "No", "NO", "true", "True", "TRUE", "false", "False", "FALSE",
    "on", "On", "ON", "off", "Off", "OFF"]

/-- The whole numbers: binary, octal, decimal, hexadecimal and in base sixty. -/
def intPattern : Pattern :=
  .seq sign (.any [
    .all [.ofText ['0', 'b'], .many (.oneOf ['0', '1', '_'])],
    .all [.ofText ['0'], .many (.char fun c => ('0' ≤ c && c ≤ '7') || c == '_')],
    .ofText ['0'],
    leadingDigits,
    .all [.ofText ['0', 'x'],
      .many (.char fun c =>
        c.isDigit || ('a' ≤ c && c ≤ 'f') || ('A' ≤ c && c ≤ 'F') || c == '_')],
    .all [leadingDigits, sexagesimal]])

/-- An exponent, if there is one; it has a sign. -/
def exponent : Pattern :=
  .optional (.all [.oneOf ['e', 'E'], .oneOf ['+', '-'], .many .digit])

/-- The numbers with a point. -/
def floatPattern : Pattern :=
  .any [
    .all [sign, someDigits, .ofText ['.'], moreDigits, exponent],
    .all [.ofText ['.'], someDigits, exponent],
    .all [sign, someDigits, sexagesimal, .ofText ['.'], moreDigits],
    .all [sign, words [".inf", ".Inf", ".INF"]],
    words [".nan", ".NaN", ".NAN"]]

/-- The pattern so many times. -/
def times (p : Pattern) : Nat → Pattern
  | 0 => .empty
  | n + 1 => .seq p (times p n)

/-- One digit or two. -/
def oneOrTwo : Pattern :=
  .seq .digit (.optional .digit)

/-- Blanks and tabs, of which there may be none. -/
def blanks : Pattern :=
  .star (.oneOf [' ', '\t'])

/-- What is between a date and a time. -/
def dateTimeSeparator : Pattern :=
  .alt (.oneOf ['T', 't']) (.many (.oneOf [' ', '\t']))

/-- A time, with a fraction of a second and a zone if they are given. -/
def timePattern : Pattern :=
  .all [oneOrTwo, .ofText [':'], times .digit 2, .ofText [':'], times .digit 2,
    .optional (.all [.ofText ['.'], .star .digit]),
    .optional (.all [blanks, .alt (.ofText ['Z']) (.all [.oneOf ['+', '-'], oneOrTwo,
      .optional (.all [.ofText [':'], times .digit 2])])])]

/-- A date, in which the month and the day may have one digit. -/
def shortDate : Pattern :=
  .all [times .digit 4, .ofText ['-'], oneOrTwo, .ofText ['-'], oneOrTwo]

/-- The dates and times.  A date alone has two digits for the month and for the day. -/
def timestampPattern : Pattern :=
  .alt (.all [times .digit 4, .ofText ['-'], times .digit 2, .ofText ['-'], times .digit 2])
    (.all [shortDate, dateTimeSeparator, timePattern])

/-- The tags that plain scalars can have, with the pattern for each, first come first served. -/
def plainPatterns : List (Pattern × Tag) :=
  [(boolPattern, .bool), (floatPattern, .float), (intPattern, .int), (words ["<<"], .merge),
    (words ["~", "null", "Null", "NULL"], .null), (timestampPattern, .timestamp),
    (words ["="], .value), (words ["!", "&", "*"], .unknown)]

/-- A text without one line break at its end. -/
def withoutLastBreak (text : List Char) : List Char :=
  if text.getLast? = some '\n' then text.dropLast else text

/-- The tag of a plain scalar; a line break at its end does not count. -/
def ofPlain (text : List Char) : Tag :=
  if text.isEmpty then .null
  else
    ((plainPatterns.find? fun entry => entry.1.accepts (withoutLastBreak text)).map
      Prod.snd).getD .str

end Tag

end DeclSplit.Yaml
