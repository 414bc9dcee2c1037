/-!
# Text for terminals

A terminal takes an escape character with a bracket as the start of a command, which ends with a
letter.

* `Text.withoutStyling` — a text without such commands;
* `Text.joinLineEnds` — a text in which a line feed alone ends a line.
-/

namespace DeclSplit.Text

/-- Whether a character can stand between the start and the end of a command. -/
def isStylingParameter (c : Char) : Bool :=
  c.isDigit || c == ';' || c == '?'

/-- The number of characters of the command at the start of a text, if one is there. -/
def stylingLength? : List Char → Option Nat
  | '\x1b' :: '[' :: rest =>
    match rest.dropWhile isStylingParameter with
    | c :: _ => if c.isAlpha then some ((rest.takeWhile isStylingParameter).length + 3) else none
    | [] => none
  | _ => none

/-- A text without the commands in it; `skip` characters at its start belong to one. -/
def withoutStylingFrom (skip : Nat) : List Char → List Char
  | [] => []
  | c :: rest =>
    match skip with
    | skip + 1 => withoutStylingFrom skip rest
    | 0 =>
      match stylingLength? (c :: rest) with
      | some length => withoutStylingFrom (length - 1) rest
      | none => c :: withoutStylingFrom 0 rest

/-- A text without the commands in it. -/
def withoutStyling (text : List Char) : List Char :=
  withoutStylingFrom 0 text

/-- A text in which no carriage return comes before a line feed. -/
def joinLineEnds : List Char → List Char
  | '\r' :: '\n' :: rest => '\n' :: joinLineEnds rest
  | c :: rest => c :: joinLineEnds rest
  | [] => []

example : withoutStyling "\x1b[1;31mx\x1b[0m".toList = ['x'] := by decide +kernel

end DeclSplit.Text
