import DeclSplit.Json
import DeclSplit.Text.Hex

/-!
# Writing JSON

The text of a JSON value in ASCII characters.  A character outside ASCII is written as the escapes
of its one or two UTF-16 units.

* `Json.renderString` — a text between quotation marks;
* `Json.render` — a value over several lines, two blanks of indentation for each level;
* `Json.compact` — a value on one line.
-/

namespace DeclSplit.Json

open Text

/-! ### Texts -/

/-- The escape of one UTF-16 unit. -/
def escapeUnit (n : Nat) : List Char :=
  '\\' :: 'u' :: hexDigits 4 n

/-- A character inside quotation marks. -/
def escapeChar (c : Char) : List Char :=
  if c = '"' ∨ c = '\\' then ['\\', c]
  else if c = '\n' then ['\\', 'n']
  else if c = '\r' then ['\\', 'r']
  else if c = '\t' then ['\\', 't']
  else if c = '\x08' then ['\\', 'b']
  else if c = '\x0c' then ['\\', 'f']
  else if ' ' ≤ c ∧ c ≤ '~' then [c]
  else if c.toNat < 0x10000 then escapeUnit c.toNat
  else
    escapeUnit (0xd800 + (c.toNat - 0x10000) / 0x400) ++
      escapeUnit (0xdc00 + (c.toNat - 0x10000) % 0x400)

/-- A text between quotation marks. -/
def renderString (s : String) : List Char :=
  '"' :: s.toList.flatMap escapeChar ++ ['"']

/-! ### Over several lines -/

/-- A line break and the indentation of a level. -/
def newline (level : Nat) : List Char :=
  '\n' :: List.replicate (2 * level) ' '

mutual

/-- A value that starts on a line of the given level. -/
def renderAt (level : Nat) : Json → List Char
  | .null => ['n', 'u', 'l', 'l']
  | .bool true => ['t', 'r', 'u', 'e']
  | .bool false => ['f', 'a', 'l', 's', 'e']
  | .int n => (toString n).toList
  | .float x => (Number.text x).toList
  | .str s => renderString s
  | .arr [] => ['[', ']']
  | .arr (v :: vs) =>
    '[' :: newline (level + 1) ++ renderItems (level + 1) (v :: vs) ++ newline level ++ [']']
  | .obj [] => ['\x7b', '\x7d']
  | .obj (m :: ms) =>
    '\x7b' :: newline (level + 1) ++ renderMembers (level + 1) (m :: ms) ++ newline level ++ ['\x7d']

/-- The items of an array, each on a line of its own. -/
def renderItems (level : Nat) : List Json → List Char
  | [] => []
  | [v] => renderAt level v
  | v :: vs => renderAt level v ++ ',' :: newline level ++ renderItems level vs

/-- The members of an object, each on a line of its own. -/
def renderMembers (level : Nat) : List (String × Json) → List Char
  | [] => []
  | [(name, v)] => renderString name ++ ':' :: ' ' :: renderAt level v
  | (name, v) :: rest =>
    renderString name ++ ':' :: ' ' :: renderAt level v ++ ',' :: newline level ++
      renderMembers level rest

end

/-- The value over several lines. -/
def render (v : Json) : List Char :=
  renderAt 0 v

/-! ### On one line -/

mutual

/-- The value on one line. -/
def compact : Json → List Char
  | .null => ['n', 'u', 'l', 'l']
  | .bool true => ['t', 'r', 'u', 'e']
  | .bool false => ['f', 'a', 'l', 's', 'e']
  | .int n => (toString n).toList
  | .float x => (Number.text x).toList
  | .str s => renderString s
  | .arr items => '[' :: compactItems items ++ [']']
  | .obj members => '\x7b' :: compactMembers members ++ ['\x7d']

/-- The items of an array on one line. -/
def compactItems : List Json → List Char
  | [] => []
  | [v] => compact v
  | v :: vs => compact v ++ ',' :: compactItems vs

/-- The members of an object on one line. -/
def compactMembers : List (String × Json) → List Char
  | [] => []
  | [(name, v)] => renderString name ++ ':' :: compact v
  | (name, v) :: rest => renderString name ++ ':' :: compact v ++ ',' :: compactMembers rest

end

end DeclSplit.Json
