import DeclSplit.Text.Reading
import DeclSplit.Yaml.Fault

/-!
# The text of a YAML document

* `Yaml.Input` — the text as far as it can be read;
* `Yaml.Source` — the characters that are left, with the place in the text;
* the classes of characters that end a line or a word.
-/

namespace DeclSplit.Yaml

/-! ### Reading -/

/-- The characters that can be read, and the fault that is met after them if they are not all. -/
structure Input where
  text : List Char
  stop : Option Fault
  deriving DecidableEq

/-- Whether a character may stand in a text. -/
def isPrintable (c : Char) : Bool :=
  c == '\t' || c == '\n' || c == '\r' || (' ' ≤ c && c ≤ '~') || c == '\x85' ||
    ('\xa0' ≤ c && c ≤ '\ufffd') || 0x10000 ≤ c.toNat

/-- The input in pieces, each of which is checked as a whole, up to a fault after the last. -/
def Input.ofPieces (stop : Option Fault) : List (List Char) → Input
  | [] => ⟨[], stop⟩
  | piece :: rest =>
    if piece.all isPrintable then
      let after := ofPieces stop rest
      { after with text := piece ++ after.text }
    else ⟨[], some .malformed⟩

/-- The input from the reading of a file.  The first two pieces are taken together, before any
character is looked at. -/
def Input.ofReading (reading : Text.Reading) : Input :=
  let stop := reading.fault.map Fault.undecodable
  match reading.pieces with
  | first :: second :: rest => .ofPieces stop ((first ++ second) :: rest)
  | pieces => if stop.isSome then ⟨[], stop⟩ else .ofPieces none pieces

/-! ### Places -/

/-- The characters that are left, the number of those before them and of all, and the line and column
of the next one. -/
structure Source where
  rest : List Char
  index : Nat
  size : Nat
  line : Nat
  column : Nat
  deriving Repr, Inhabited

/-! ### Characters -/

/-- Whether a character ends a line. -/
def isBreak (c : Char) : Bool :=
  c == '\n' || c == '\r' || c == '\x85' || c == '\u2028' || c == '\u2029'

/-- Whether a character is a blank or a tab. -/
def isBlank (c : Char) : Bool :=
  c == ' ' || c == '\t'

/-- Whether a character can stand in the name of an anchor, a directive or a tag handle. -/
def isNameChar (c : Char) : Bool :=
  ('0' ≤ c && c ≤ '9') || ('A' ≤ c && c ≤ 'Z') || ('a' ≤ c && c ≤ 'z') || c == '-' || c == '_'

/-- Whether the text or the line ends here. -/
def endsLine : Option Char → Bool
  | none => true
  | some c => isBreak c

/-- Whether the text, the line or a word before a blank ends here. -/
def endsField : Option Char → Bool
  | none => true
  | some c => c == ' ' || isBreak c

/-- Whether the text, the line or a word before a blank or a tab ends here. -/
def endsWord : Option Char → Bool
  | none => true
  | some c => isBlank c || isBreak c

namespace Source

/-- The start of a text. -/
def ofText (text : List Char) : Source :=
  ⟨text, 0, text.length, 0, 0⟩

/-- The number of characters that are left. -/
def left (s : Source) : Nat :=
  s.size - s.index

/-- The next character. -/
def peek (s : Source) : Option Char :=
  s.rest.head?

/-- The character `n` places on. -/
def peekAt (s : Source) (n : Nat) : Option Char :=
  s.rest[n]?

/-- The place after the next character.  A byte order mark takes no column. -/
def next (s : Source) : Source :=
  match s.rest with
  | [] => s
  | c :: rest =>
    if isBreak c && !(c == '\r' && rest.head? == some '\n') then
      ⟨rest, s.index + 1, s.size, s.line + 1, 0⟩
    else ⟨rest, s.index + 1, s.size, s.line, if c == '\ufeff' then s.column else s.column + 1⟩

/-- The place after the next `n` characters. -/
def skip (s : Source) : Nat → Source
  | 0 => s
  | n + 1 => s.next.skip n

/-- The characters from here on that are in a class, and the place after them. -/
def span (s : Source) (inClass : Char → Bool) : List Char × Source :=
  let taken := s.rest.takeWhile inClass
  (taken, s.skip taken.length)

/-- The place after the characters from here on that are in a class. -/
def skipWhile (s : Source) (inClass : Char → Bool) : Source :=
  (s.span inClass).2

/-- The line break here, if there is one, as it counts in a text, and the place after it. -/
def lineBreak? (s : Source) : Option (Char × Source) :=
  match s.rest with
  | '\r' :: '\n' :: _ => some ('\n', s.skip 2)
  | c :: _ =>
    if c == '\u2028' || c == '\u2029' then some (c, s.next)
    else if isBreak c then some ('\n', s.next)
    else none
  | [] => none

/-- The place after the line break here, if there is one. -/
def skipBreak (s : Source) : Source :=
  match s.lineBreak? with
  | some (_, s) => s
  | none => s

/-- The place after blanks and a comment. -/
def skipComment (s : Source) : Source :=
  let s := s.skipWhile (· == ' ')
  if s.peek == some '#' then s.skipWhile fun c => !isBreak c else s

/-- Whether three given characters and the end of a word are next. -/
def atMarker (s : Source) (c : Char) : Bool :=
  s.rest.take 3 == [c, c, c] && endsWord (s.peekAt 3)

/-- Whether a document starts or ends here. -/
def atDocumentMarker (s : Source) : Bool :=
  s.atMarker '-' || s.atMarker '.'

end Source

end DeclSplit.Yaml
