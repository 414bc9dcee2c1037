import DeclSplit.Yaml.Token.Names

/-!
# Quoted scalars

A scalar between single or double quotation marks.  A line break in it counts as a blank, and empty
lines count as line breaks.

* `Yaml.quotedScalar` — the text of a quoted scalar.
-/

namespace DeclSplit.Yaml

/-- The line breaks that follow a first one, with the blanks around them left out. -/
def quotedBreaks : (steps : Nat) → Source → Except Fault (List Char × Source)
  | 0, s => .ok ([], s)
  | steps + 1, s =>
    if s.atDocumentMarker then malformed
    else
      let s := s.skipWhile isBlank
      match s.lineBreak? with
      | some (c, s) => do
        let (cs, s) ← quotedBreaks steps s
        .ok (c :: cs, s)
      | none => .ok ([], s)

/-- The blanks or the line breaks between two words. -/
def quotedSpaces (s : Source) : Except Fault (List Char × Source) :=
  let (blanks, s) := s.span isBlank
  match s.lineBreak? with
  | some (c, s) => do
    let (breaks, s) ← quotedBreaks (s.left + 1) s
    let first := if c != '\n' then [c] else if breaks.isEmpty then [' '] else []
    .ok (first ++ breaks, s)
  | none => if s.rest.isEmpty then malformedAt s else .ok (blanks, s)

/-- The character of a one-letter escape. -/
def escapedLetter? (c : Char) : Option Char :=
  [('0', '\x00'), ('a', '\x07'), ('b', '\x08'), ('t', '\t'), ('\t', '\t'), ('n', '\n'),
    ('v', '\x0b'), ('f', '\x0c'), ('r', '\r'), ('e', '\x1b'), (' ', ' '), ('"', '"'), ('\\', '\\'),
    ('/', '/'), ('N', '\x85'), ('_', '\xa0'), ('L', '\u2028'), ('P', '\u2029')].lookup c

/-- The number of hexadecimal digits of a numeric escape. -/
def escapeWidth? (c : Char) : Option Nat :=
  [('x', 2), ('u', 4), ('U', 8)].lookup c

/-- The character of a number below `0x110000`; the numbers of lone surrogates, which are no characters
here, count as that of the replacement character. -/
def escapedChar (n : Nat) : Char :=
  if n.isValidChar then .ofNat n else '\ufffd'

/-- The character of a numeric escape of so many digits. -/
def escapedNumber (width : Nat) (s : Source) : Except Fault (List Char × Source) :=
  match hexNumber width s.rest with
  | .error f => .error f
  | .ok n =>
    if Nat.pow 2 31 ≤ n then .error (.noSuchCharacter true)
    else if 0x110000 ≤ n then .error (.noSuchCharacter false)
    else .ok ([escapedChar n], s.skip width)

/-- What an escape stands for; `s` is the place after the backslash. -/
def quotedEscape (s : Source) : Except Fault (List Char × Source) :=
  match s.peek with
  | none => malformedAt s
  | some c =>
    match escapedLetter? c, escapeWidth? c with
    | some e, _ => .ok ([e], s.next)
    | none, some width => escapedNumber width s.next
    | none, none =>
      if isBreak c then quotedBreaks (s.left + 1) s.skipBreak else malformed

/-- Whether a character stands for itself between quotation marks, whichever they are. -/
def isQuotedChar (c : Char) : Bool :=
  c != '\'' && c != '"' && c != '\\' && !isBlank c && !isBreak c

/-- The characters up to a blank, a line break or the closing quotation mark. -/
def quotedRun (mark : Char) : (steps : Nat) → Source → Except Fault (List Char × Source)
  | 0, s => .ok ([], s)
  | steps + 1, s =>
    match s.rest with
    | [] => .ok ([], s)
    | c :: rest =>
      if isQuotedChar c then do
        let (cs, s) ← quotedRun mark steps s.next
        .ok (c :: cs, s)
      else if mark == '\'' && c == '\'' && rest.head? == some '\'' then do
        let (cs, s) ← quotedRun mark steps (s.skip 2)
        .ok ('\'' :: cs, s)
      else if (mark == '"' && c == '\'') || (mark == '\'' && (c == '"' || c == '\\')) then do
        let (cs, s) ← quotedRun mark steps s.next
        .ok (c :: cs, s)
      else if mark == '"' && c == '\\' then do
        let (first, s) ← quotedEscape s.next
        let (cs, s) ← quotedRun mark steps s
        .ok (first ++ cs, s)
      else .ok ([], s)

/-- The words up to the closing quotation mark, with what is between them. -/
def quotedWords (mark : Char) : (steps : Nat) → Source → Except Fault (List Char × Source)
  | 0, s => malformedAt s
  | steps + 1, s =>
    if s.peek == some mark then .ok ([], s.next)
    else do
      let (spaces, s) ← quotedSpaces s
      let (run, s) ← quotedRun mark (s.left + 1) s
      let (cs, s) ← quotedWords mark steps s
      .ok (spaces ++ run ++ cs, s)

/-- The text of a quoted scalar; `mark` is its quotation mark, and is next. -/
def quotedScalar (mark : Char) (s : Source) : Except Fault (List Char × Source) := do
  let (run, s) ← quotedRun mark (s.left + 1) s.next
  let (cs, s) ← quotedWords mark (s.left + 2) s
  .ok (run ++ cs, s)

end DeclSplit.Yaml
