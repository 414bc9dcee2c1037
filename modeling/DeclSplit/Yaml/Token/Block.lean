import DeclSplit.Yaml.Token.Names

/-!
# Block scalars

A scalar that is written on indented lines of its own, after a header.  The lines are kept as they are,
or folded into one where they are not indented further.

* `Yaml.blockScalar` — the text of a block scalar.
-/

namespace DeclSplit.Yaml

/-- What becomes of the line breaks at the end of a block scalar. -/
inductive Chomping where
  /-- The last line ends with one line break. -/
  | clip
  /-- There is none. -/
  | strip
  /-- All are kept. -/
  | keep
  deriving DecidableEq, Repr

/-- The sign for what becomes of the line breaks at the end. -/
def chomping? : Option Char → Option Chomping
  | some '+' => some .keep
  | some '-' => some .strip
  | _ => none

/-- The digit for the depth of the indentation, which may not be zero. -/
def indentDigit? (c : Option Char) : Option Nat :=
  match c with
  | some c => if c.isDigit then some (c.toNat - '0'.toNat) else none
  | none => none

/-- The signs after the first of a block scalar: what becomes of the line breaks at the end, and how
much deeper the lines are indented, each if it is given. -/
def blockSigns (s : Source) : (Chomping × Option Nat) × Source :=
  match chomping? s.peek with
  | some chomping =>
    match indentDigit? s.next.peek with
    | some n => ((chomping, some n), s.skip 2)
    | none => ((chomping, none), s.next)
  | none =>
    match indentDigit? s.peek with
    | some n =>
      match chomping? s.next.peek with
      | some chomping => ((chomping, some n), s.skip 2)
      | none => ((.clip, some n), s.next)
    | none => ((.clip, none), s)

/-- The signs after the first of a block scalar, with the rest of their line. -/
def blockHeader (s : Source) : Except Fault ((Chomping × Option Nat) × Source) := do
  let (signs, s) := blockSigns s
  if signs.2 = some 0 || !endsField s.peek then malformed
  let s := s.skipComment
  if endsLine s.peek then .ok (signs, s.skipBreak) else malformed

/-- The empty lines at the start, the column of the deepest blank in them, and the place after them. -/
def leadingBreaks (deepest : Nat) : (steps : Nat) → Source → List Char × Nat × Source
  | 0, s => ([], deepest, s)
  | steps + 1, s =>
    match s.lineBreak? with
    | some (c, s) =>
      let (cs, deepest, s) := leadingBreaks deepest steps s
      (c :: cs, deepest, s)
    | none =>
      if s.peek == some ' ' then leadingBreaks (max deepest s.next.column) steps s.next
      else ([], deepest, s)

/-- The place after at most so many blanks that the given column is reached. -/
def indentTo (column : Nat) : (steps : Nat) → Source → Source
  | 0, s => s
  | steps + 1, s =>
    if s.column < column && s.peek == some ' ' then indentTo column steps s.next else s

/-- The empty lines from here on, and the place after them and the indentation of the next line. -/
def emptyLines (column : Nat) : (steps : Nat) → Source → List Char × Source
  | 0, s => ([], s)
  | steps + 1, s =>
    let s := indentTo column column s
    match s.lineBreak? with
    | some (c, s) =>
      let (cs, s) := emptyLines column steps s
      (c :: cs, s)
    | none => ([], s)

/-- The lines of a block scalar from here on, after the empty lines `before`, with the line break of
the last line and the empty lines after it. -/
def blockLines (folded : Bool) (column : Nat) (before : List Char) :
    (steps : Nat) → Source → List Char × List Char × List Char × Source
  | 0, s => ([], [], before, s)
  | steps + 1, s =>
    let startsBlank := s.peek.any isBlank
    let (line, s) := s.span fun c => !isBreak c
    let (lineBreak, s) :=
      match s.lineBreak? with
      | some (c, s) => ([c], s)
      | none => ([], s)
    let (breaks, s) := emptyLines column (s.left + 1) s
    if s.column == column && !s.rest.isEmpty then
      let joint :=
        if folded && lineBreak == ['\n'] && !startsBlank && !s.peek.any isBlank then
          if breaks.isEmpty then [' '] else []
        else lineBreak
      let (cs, last, after, s) := blockLines folded column breaks steps s
      (before ++ line ++ joint ++ cs, last, after, s)
    else (before ++ line, lineBreak, breaks, s)

/-- The empty lines before the first line of a block scalar, the column of its lines, and the place after
the empty lines.  If no depth is given, the deepest blank decides. -/
def blockStart (least : Nat) (depth : Option Nat) (s : Source) : List Char × Nat × Source :=
  match depth with
  | none =>
    let (breaks, deepest, s) := leadingBreaks 0 (s.left + 1) s
    (breaks, max least deepest, s)
  | some depth =>
    let column := least + depth - 1
    let (breaks, s) := emptyLines column (s.left + 1) s
    (breaks, column, s)

/-- The lines of a block scalar, if there are any, like `blockLines`. -/
def blockBody (folded : Bool) (column : Nat) (before : List Char) (s : Source) :
    List Char × List Char × List Char × Source :=
  if s.column == column && !s.rest.isEmpty then
    blockLines folded column before (s.left + 1) s
  else ([], [], before, s)

/-- The text of a block scalar below a collection of the given indentation; `folded` says whether its
lines are folded. -/
def blockScalar (folded : Bool) (indent : Int) (s : Source) : Except Fault (List Char × Source) := do
  let ((chomping, depth), s) ← blockHeader s.next
  let (before, column, s) := blockStart (max 1 (indent + 1).toNat) depth s
  let (text, last, after, s) := blockBody folded column before s
  let ending :=
    match chomping with
    | .clip => last
    | .strip => []
    | .keep => last ++ after
  .ok (text ++ ending, s)

end DeclSplit.Yaml
