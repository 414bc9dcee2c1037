import DeclSplit.Console.Emoji
import DeclSplit.Console.Literal
import DeclSplit.Console.Style
import DeclSplit.Text.Word

/-!
# Markup

Text for the console can hold tags in square brackets that switch styles on and off.  Here the text is
of interest, and of the styles only whether they can be read.  A backslash before a tag takes away its
meaning, two of them stand for one.

* `Console.readMarkup` — the text of markup, with the places of styles that cannot be read;
* `Console.Marked.linesBy` — the lines that are made of such a text;
* `Console.escape` — markup for a text, in which nothing is a tag.
-/

namespace DeclSplit.Console

/-! ### Tags -/

/-- Whether a tag can start with a character. -/
def startsTag (c : Char) : Bool :=
  ('a' ≤ c && c ≤ 'z') || c == '#' || c == '/' || c == '@'

/-- The inside of the tag that starts here, and what is after its closing bracket.  No tag holds an
opening bracket. -/
def tagAt? (text : List Char) : Option (List Char × List Char) :=
  match text with
  | '[' :: c :: rest =>
    let more := rest.takeWhile fun c => c != '[' && c != ']'
    match rest.drop more.length with
    | ']' :: after => if startsTag c then some (c :: more, after) else none
    | _ => none
  | _ => none

/-- A part of markup. -/
inductive Piece where
  | text (cs : List Char)
  /-- A tag, with the number of backslashes before it. -/
  | tag (backslashes : Nat) (inside : List Char)
  deriving DecidableEq, Repr

/-- A character in front of pieces. -/
def consPiece (c : Char) : List Piece → List Piece
  | .text cs :: pieces => .text (c :: cs) :: pieces
  | pieces => .text [c] :: pieces

/-- The pieces of markup, of which at most `steps` characters are read. -/
def piecesOf : (steps : Nat) → List Char → List Piece
  | 0, _ | _, [] => []
  | steps + 1, text@(c :: rest) =>
    let backslashes := (text.takeWhile (· == '\\')).length
    match tagAt? (text.drop backslashes) with
    | some (inside, after) => .tag backslashes inside :: piecesOf steps after
    | none =>
      if backslashes = 0 then consPiece c (piecesOf steps rest)
      else
        (List.replicate backslashes '\\').foldr consPiece (piecesOf steps (text.drop backslashes))

/-- The pieces of markup. -/
def pieces (text : List Char) : List Piece :=
  piecesOf text.length text

/-! ### Tags that are open -/

/-- Why markup cannot be shown. -/
inductive MarkupError where
  /-- A closing tag closes nothing. -/
  | nothingToClose (tag : String)
  /-- The value of an action is no literal. -/
  | badAction (value : String)
  /-- A part of a colour should be a number and is none. -/
  | badNumber (style : String)
  deriving DecidableEq, Repr

/-- The error in words. -/
def MarkupError.message : MarkupError → String
  | .nothingToClose tag => s!"[{tag}] closes no tag"
  | .badAction value => s!"{value} is no literal"
  | .badNumber style => s!"{style} has a colour without a number"

/-- An open tag: the one name of its style, the value that is given to it, and the place where it
starts in the text. -/
structure OpenTag where
  style : String
  value : Option (List Char)
  start : Nat
  deriving DecidableEq, Repr

/-- Whether a tag is for an action. -/
def OpenTag.isAction (t : OpenTag) : Bool :=
  t.style.toList.head? = some '@'

/-- The text that describes the style of a tag with its value. -/
def OpenTag.description (t : OpenTag) : List Char :=
  match t.value with
  | none => t.style.toList
  | some value => t.style.toList ++ ' ' :: value

/-- Whether the style of a tag cannot be read for want of a number. -/
def OpenTag.lacksNumber (t : OpenTag) : Bool :=
  !t.isAction && Style.read t.description matches .error .badNumber

/-- Whether the value of a tag for an action can be read: a name, which can have arguments in brackets
after it, or a literal. -/
def actionIsReadable (value : List Char) : Bool :=
  let value := trim value
  let rest := value.dropWhile fun c => Text.isWordChar c || c == '.'
  let isCall := rest.head? = some '(' && rest.getLast? = some ')' && !rest.contains '\n'
  rest.isEmpty || isLiteral (if isCall then rest else value)

/-- The tag that a closing tag closes, the last one with the given style or the last one of all, and
the other open tags; the last one is the first in the list. -/
def closeTag (opened : List OpenTag) (tag : String) (style : List Char) :
    Except MarkupError (OpenTag × List OpenTag) := do
  let closed ←
    if style.isEmpty then pure opened.head?
    else
      match normalizeStyle style with
      | some name => pure (opened.find? (·.style = name))
      | none => throw (.badNumber (.ofList style))
  match closed with
  | none => throw (.nothingToClose tag)
  | some closed =>
    let value := closed.value.getD []
    if closed.isAction && !value.isEmpty && !actionIsReadable value then
      throw (.badAction (.ofList value))
    return (closed, opened.erase closed)

/-! ### The text of markup -/

/-- A style with the places in a text where it starts and stops. -/
structure Span where
  style : String
  start : Nat
  stop : Nat
  deriving DecidableEq, Repr

/-- A text, and the styles in it that cannot be read for want of a number. -/
structure Marked where
  text : List Char
  unreadable : List Span
  deriving DecidableEq, Repr

/-- A text without styles. -/
def Marked.plain (text : List Char) : Marked :=
  ⟨text, []⟩

/-- A marked text with a text before it. -/
def Marked.after (before : List Char) (m : Marked) : Marked :=
  { m with text := before ++ m.text }

/-- A marked text with a tag that ends at `stop`. -/
def Marked.withTag (t : OpenTag) (stop : Nat) (m : Marked) : Marked :=
  if t.lacksNumber then
    { m with unreadable := ⟨.ofList t.description, t.start, stop⟩ :: m.unreadable }
  else m

/-- A text in which a backslash before an opening bracket is left out. -/
def unescapeBrackets : List Char → List Char
  | '\\' :: '[' :: rest => '[' :: unescapeBrackets rest
  | c :: rest => c :: unescapeBrackets rest
  | [] => []

/-- The characters that move the cursor without a trace. -/
def controls : List Char :=
  ['\x07', '\x08', '\x0b', '\x0c', '\r']

/-- A text without such characters. -/
def withoutControls (text : List Char) : List Char :=
  text.filter (!controls.contains ·)

/-- What is shown of the text between tags. -/
def shown (text : List Char) : List Char :=
  withoutControls (withEmoji (unescapeBrackets text))

/-- The text of pieces that start at the given place; `opened` are the open tags, last one first. -/
def readPieces (opened : List OpenTag) (place : Nat) : List Piece → Except MarkupError Marked
  | [] => .ok (opened.foldr (Marked.withTag · place) (.plain []))
  | .text cs :: rest => do
    let text := shown cs
    return (← readPieces opened (place + text.length) rest).after text
  | .tag backslashes inside :: rest => do
    let literal := List.replicate (backslashes / 2) '\\'
    if backslashes % 2 = 1 then
      let text := literal ++ shown ('[' :: inside ++ [']'])
      return (← readPieces opened (place + text.length) rest).after text
    let place := place + literal.length
    let name := inside.takeWhile (· != '=')
    let value := if inside.contains '=' then some (inside.drop (name.length + 1)) else none
    match name with
    | '/' :: style =>
      let (closed, opened) ← closeTag opened (.ofList inside) (trim style)
      return ((← readPieces opened place rest).withTag closed place).after literal
    | _ =>
      match normalizeStyle name with
      | some style => return (← readPieces (⟨style, value, place⟩ :: opened) place rest).after literal
      | none => throw (.badNumber (.ofList name))

/-- The text of markup, or why it cannot be shown. -/
def readMarkup (markup : List Char) : Except MarkupError Marked :=
  readPieces [] 0 (pieces markup)

/-! ### Lines -/

/-- Whether a style is left over when the text is broken into so many lines.  One without characters
is gone if there is a break or a tab in the text. -/
def Marked.isLeft (m : Marked) (lines : Nat) (s : Span) : Bool :=
  (lines = 1 && !m.text.contains '\t') || ((m.text.take s.stop).drop s.start).any (· ≠ '\n')

/-- The lines that are made of a text, unless a style in them cannot be read. -/
def Marked.linesBy (m : Marked) (lines : List Char → List (List Char)) :
    Except MarkupError (List (List Char)) :=
  let broken := lines m.text
  match m.unreadable.find? (m.isLeft broken.length) with
  | some span => .error (.badNumber span.style)
  | none => .ok broken

/-! ### Escaping -/

/-- The markup of a piece in which the tag has no meaning. -/
def Piece.escape : Piece → List Char
  | .text cs => cs
  | .tag backslashes inside =>
    List.replicate (2 * backslashes + 1) '\\' ++ '[' :: inside ++ [']']

/-- Markup for a text, in which nothing is a tag.  A single backslash at the end is doubled, so that a
tag can follow. -/
def escape (text : List Char) : List Char :=
  let escaped := (pieces text).flatMap Piece.escape
  match escaped.reverse with
  | '\\' :: '\\' :: _ => escaped
  | '\\' :: _ => escaped ++ ['\\']
  | _ => escaped

example : escape ['a', '[', 'b', ']'] = ['a', '\\', '[', 'b', ']'] := by decide

end DeclSplit.Console
