import DeclSplit.Yaml.Source

/-!
# Plain scalars

A scalar without quotation marks.  It goes on over lines that are indented deeply enough.

* `Yaml.plainScalar` — the text of a plain scalar.
-/

namespace DeclSplit.Yaml

/-- Whether a character has a meaning inside brackets and braces. -/
def isFlowSign (c : Char) : Bool :=
  c == ',' || c == '[' || c == ']' || c == '\x7b' || c == '\x7d'

/-- Whether a colon before the given character separates a key from its value. -/
def colonSeparates (flow : Bool) (next : Option Char) : Bool :=
  endsWord next || (flow && next.any isFlowSign)

/-- The number of characters up to the end of a word of a plain scalar. -/
def plainLength (flow : Bool) : List Char → Nat
  | [] => 0
  | c :: rest =>
    if endsWord (some c) || (c == ':' && colonSeparates flow rest.head?) ||
        (flow && (isFlowSign c || c == '?')) then 0
    else plainLength flow rest + 1

/-- What is between two words: the text it counts as, whether it goes over a line break, and the place
after it.  It counts as nothing where a document ends. -/
structure PlainGap where
  text : List Char
  breaksLine : Bool
  after : Source

/-- The line breaks that follow a first one; none counts where a document ends. -/
def plainBreaks : (steps : Nat) → Source → Option (List Char) × Source
  | 0, s => (some [], s)
  | steps + 1, s =>
    let s := s.skipWhile (· == ' ')
    match s.lineBreak? with
    | none => (some [], s)
    | some (c, s) =>
      if s.atDocumentMarker then (none, s)
      else
        let (cs, s) := plainBreaks steps s
        (cs.map (c :: ·), s)

/-- What is between two words. -/
def plainGap (s : Source) : PlainGap :=
  let (blanks, s) := s.span (· == ' ')
  match s.lineBreak? with
  | none => ⟨blanks, false, s⟩
  | some (c, s) =>
    if s.atDocumentMarker then ⟨[], true, s⟩
    else
      match plainBreaks (s.left + 1) s with
      | (none, s) => ⟨[], true, s⟩
      | (some breaks, s) =>
        let first := if c != '\n' then [c] else if breaks.isEmpty then [' '] else []
        ⟨first ++ breaks, true, s⟩

/-- The text of a plain scalar, whether a line break follows it, and the place after it. -/
structure PlainScalar where
  text : List Char
  breaksLine : Bool
  after : Source

/-- The words of a plain scalar from here on, after the gap `before`. -/
def plainWords (flow : Bool) (indent : Int) (before : PlainGap) :
    (steps : Nat) → Source → PlainScalar
  | 0, s => ⟨[], before.breaksLine, s⟩
  | steps + 1, s =>
    let length := if s.peek == some '#' then 0 else plainLength flow s.rest
    if length = 0 then ⟨[], before.breaksLine, s⟩
    else
      let word := s.rest.take length
      let gap := plainGap (s.skip length)
      let ends := gap.text.isEmpty || gap.after.peek == some '#' ||
        (!flow && decide ((gap.after.column : Int) < indent))
      if ends then ⟨before.text ++ word, gap.breaksLine, gap.after⟩
      else
        let rest := plainWords flow indent gap steps gap.after
        { rest with text := before.text ++ word ++ rest.text }

/-- A plain scalar inside brackets (`flow`) or in lines of at least the given indentation. -/
def plainScalar (flow : Bool) (indent : Int) (s : Source) : PlainScalar :=
  plainWords flow indent ⟨[], false, s⟩ (s.left + 1) s

end DeclSplit.Yaml
