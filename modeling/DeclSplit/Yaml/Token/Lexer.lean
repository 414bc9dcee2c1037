import DeclSplit.Yaml.Token.Block
import DeclSplit.Yaml.Token.Plain
import DeclSplit.Yaml.Token.Quoted

/-!
# From text to tokens

A text is split into tokens from left to right.  Two things are known only later on: that a
collection which is written by indentation has ended, and that what came before a colon was a key.
For the second, the place where a key may have started is kept, and the token for the key is put in
there when the colon is met on the same line and not too far away.

A token is handed out as soon as nothing can be put in before it any more, and no sooner.  So a fault
of the text comes after the tokens that are handed out by then, and after no others.

* `Yaml.Lexer` — how far a text is split;
* `Yaml.Lexer.next` — one step further;
* `Yaml.Lexer.isHeldBack` — whether the token that is due has to wait;
* `Yaml.tokens` — the tokens of a text.
-/

namespace DeclSplit.Yaml

/-- A place where a key may have started: the number of tokens before it, its position, and whether
nothing but a key can stand there. -/
structure KeyStart where
  tokenCount : Nat
  index : Nat
  line : Nat
  column : Nat
  required : Bool
  deriving Repr

/-- How far a text is split into tokens. -/
structure Lexer where
  /-- What is left of the text. -/
  source : Source
  /-- The fault that is met at the end of the text, if it cannot be read on from there. -/
  stop : Option Fault
  /-- The tokens that are held back. -/
  tokens : Array Token
  /-- The columns of the open collections that are written by indentation, innermost first. -/
  indents : List Nat
  /-- The place where a key may have started, outside brackets or inside the innermost ones. -/
  keyStart : Option KeyStart
  /-- The same for what is around each of the open brackets, innermost first. -/
  outerKeyStarts : List (Option KeyStart)
  /-- Whether a key can start here. -/
  keyAllowed : Bool
  /-- The number of tokens before them, which are handed out. -/
  handedOut : Nat

namespace Lexer

/-- The start of a text. -/
def ofInput (input : Input) : Lexer :=
  ⟨.ofText input.text, input.stop, #[], [], none, [], true, 0⟩

/-- Whether a bracket or a brace is open. -/
def inFlow (l : Lexer) : Bool :=
  !l.outerKeyStarts.isEmpty

/-- The column of the innermost collection that is written by indentation; there is none at the start
of a document. -/
def indent (l : Lexer) : Int :=
  match l.indents with
  | [] => -1
  | column :: _ => column

/-- One more token. -/
def emit (l : Lexer) (t : Token) : Lexer :=
  { l with tokens := l.tokens.push t }

/-- One more token, of so many characters. -/
def emitSign (l : Lexer) (t : Token) (length : Nat) : Lexer :=
  { l with tokens := l.tokens.push t, source := l.source.skip length }

/-- Lets a key start here, or not. -/
def allowKey (l : Lexer) (allowed : Bool) : Lexer :=
  { l with keyAllowed := allowed }

/-! ### Blanks and indentation -/

/-- The place after a byte order mark at the start of a text. -/
def skipByteOrderMark (s : Source) : Source :=
  if s.index == 0 && s.peek == some '\ufeff' then s.next else s

/-- Goes to the next character that is no blank and in no comment.  A key can start on a new line. -/
def skipBlanks : (steps : Nat) → Lexer → Lexer
  | 0, l => l
  | steps + 1, l =>
    let source := l.source.skipComment
    match source.lineBreak? with
    | some (_, source) =>
      skipBlanks steps { l with source, keyAllowed := l.keyAllowed || !l.inFlow }
    | none => { l with source }

/-- Whether a key can no longer have started at the given place: it is on another line or too far
away. -/
def isStale (s : Source) (start : KeyStart) : Bool :=
  start.line != s.line || 1024 < s.index - start.index

/-- Gives up the places where no key can have started any more. -/
def dropStale (l : Lexer) : Except Fault Lexer :=
  let stale (start : Option KeyStart) : Bool := start.any (isStale l.source)
  let keep (start : Option KeyStart) : Option KeyStart := if stale start then none else start
  let starts := l.keyStart :: l.outerKeyStarts
  if starts.any fun start => stale start && start.any KeyStart.required then malformed
  else .ok { l with keyStart := keep l.keyStart, outerKeyStarts := l.outerKeyStarts.map keep }

/-- Ends the collections that are indented deeper than the given column. -/
def closeBelow (l : Lexer) (column : Int) : Lexer :=
  if l.inFlow then l
  else
    let isDeeper (indent : Nat) : Bool := column < indent
    { l with
      tokens := l.tokens ++ ((l.indents.takeWhile isDeeper).map fun _ => Token.blockEnd).toArray
      indents := l.indents.dropWhile isDeeper }

/-- Whether a collection at the given column starts there, and does not go on. -/
def startsAt (l : Lexer) (column : Nat) : Bool :=
  l.indent < column

/-- Starts a collection at the current column, unless it goes on there. -/
def openBlock (l : Lexer) (start : Token) : Lexer :=
  if l.startsAt l.source.column then
    { l with tokens := l.tokens.push start, indents := l.source.column :: l.indents }
  else l

/-! ### Keys -/

/-- Gives up the place where a key may have started. -/
def forgetKey (l : Lexer) : Except Fault Lexer :=
  if l.keyStart.any KeyStart.required then malformed else .ok { l with keyStart := none }

/-- Notes that a key may start here. -/
def noteKey (l : Lexer) : Except Fault Lexer := do
  if !l.keyAllowed then return l
  let l ← l.forgetKey
  return { l with keyStart := some {
    tokenCount := l.handedOut + l.tokens.size
    index := l.source.index
    line := l.source.line
    column := l.source.column
    required := !l.inFlow && l.indent == (l.source.column : Int) } }

/-- The token for a key is put in where the key started, after that for the mapping if the key is its
first one. -/
def insertKey (l : Lexer) (start : KeyStart) : Lexer :=
  let starts := !l.inFlow && l.startsAt start.column
  let inserted := if starts then #[Token.blockMappingStart, .key] else #[.key]
  let place := start.tokenCount - l.handedOut
  { l with
    tokens := l.tokens.extract 0 place ++ inserted ++ l.tokens.extract place l.tokens.size
    indents := if starts then start.column :: l.indents else l.indents
    keyStart := none }

/-! ### Tokens -/

/-- The end of the text. -/
def endStream (l : Lexer) : Except Fault Lexer := do
  let l ← (l.closeBelow (-1)).forgetKey
  return l.emit .streamEnd

/-- What stands on a line of its own between documents. -/
def betweenDocuments (l : Lexer) : Except Fault Lexer := do
  let l ← (l.closeBelow (-1)).forgetKey
  return l.allowKey false

/-- A directive. -/
def directiveLine (l : Lexer) : Except Fault Lexer := do
  let l ← l.betweenDocuments
  let (d, source) ← directive l.source
  return { l with source }.emit (.directive d)

/-- An opening bracket or brace. -/
def openFlow (l : Lexer) (t : Token) : Except Fault Lexer := do
  let l ← l.noteKey
  return { l with
    keyStart := none
    outerKeyStarts := l.keyStart :: l.outerKeyStarts
    keyAllowed := true }.emitSign t 1

/-- A closing bracket or brace. -/
def closeFlow (l : Lexer) (t : Token) : Except Fault Lexer := do
  let l ← l.forgetKey
  return { l with
    keyStart := l.outerKeyStarts.head?.join
    outerKeyStarts := l.outerKeyStarts.tail
    keyAllowed := false }.emitSign t 1

/-- A comma between brackets or braces. -/
def flowSeparator (l : Lexer) : Except Fault Lexer := do
  let l ← l.forgetKey
  return (l.allowKey true).emitSign .flowEntry 1

/-- The sign before an entry, a key or a value of a collection that is written by indentation; the
collection starts there if it does not go on. -/
def blockSign (l : Lexer) (start sign : Token) (keyAllowed : Bool) : Except Fault Lexer := do
  if !l.inFlow && !l.keyAllowed then malformed
  let l := if l.inFlow then l else l.openBlock start
  let l ← l.forgetKey
  return (l.allowKey keyAllowed).emitSign sign 1

/-- The colon before a value. -/
def valueSign (l : Lexer) : Except Fault Lexer :=
  match l.keyStart with
  | some start => .ok (((l.insertKey start).allowKey false).emitSign .value 1)
  | none => l.blockSign .blockMappingStart .value (!l.inFlow)

/-- A token that may be a key or the start of one. -/
def inlineToken (l : Lexer) (read : Source → Except Fault (Token × Source)) : Except Fault Lexer := do
  let l ← l.noteKey
  let (t, source) ← read l.source
  return ({ l with source }.allowKey false).emit t

/-- A plain scalar; a key can follow it on a new line. -/
def plain (l : Lexer) : Except Fault Lexer := do
  let l ← l.noteKey
  let scalar := plainScalar l.inFlow (l.indent + 1) l.source
  return ({ l with source := scalar.after }.allowKey scalar.breaksLine).emit (.scalar scalar.text true)

/-- A scalar on lines of its own. -/
def block (l : Lexer) (folded : Bool) : Except Fault Lexer := do
  let l ← (l.allowKey true).forgetKey
  let (text, source) ← blockScalar folded l.indent l.source
  return { l with source }.emit (.scalar text false)

/-- A scalar between quotation marks. -/
def quoted (mark : Char) (s : Source) : Except Fault (Token × Source) := do
  let (text, s) ← quotedScalar mark s
  return (.scalar text false, s)

/-- Whether a plain scalar can start with a character before another one. -/
def startsPlain (inFlow : Bool) (c : Char) (next : Option Char) : Bool :=
  let isSign := endsWord (some c) || ['-', '?', ':', ',', '[', ']', '\x7b', '\x7d', '#', '&', '*',
    '!', '|', '>', '\'', '"', '%', '@', '\x60'].contains c
  !isSign || (!endsWord next && (c == '-' || (!inFlow && (c == '?' || c == ':'))))

/-- The token that starts with the given character, which is next. -/
def tokenAt (l : Lexer) (c : Char) : Except Fault Lexer := do
  let s := l.source
  let following := s.peekAt 1
  if s.column == 0 && c == '%' then l.directiveLine
  else if s.column == 0 && s.atMarker '-' then return (← l.betweenDocuments).emitSign .documentStart 3
  else if s.column == 0 && s.atMarker '.' then return (← l.betweenDocuments).emitSign .documentEnd 3
  else if c == '[' then l.openFlow .flowSequenceStart
  else if c == '\x7b' then l.openFlow .flowMappingStart
  else if c == ']' then l.closeFlow .flowSequenceEnd
  else if c == '\x7d' then l.closeFlow .flowMappingEnd
  else if c == ',' then l.flowSeparator
  else if c == '-' && endsWord following then l.blockSign .blockSequenceStart .blockEntry true
  else if c == '?' && (l.inFlow || endsWord following) then
    l.blockSign .blockMappingStart .key (!l.inFlow)
  else if c == ':' && (l.inFlow || endsWord following) then l.valueSign
  else if c == '*' then
    l.inlineToken fun s => do
      let (name, s) ← anchorName s
      return (.alias name, s)
  else if c == '&' then
    l.inlineToken fun s => do
      let (name, s) ← anchorName s
      return (.anchor name, s)
  else if c == '!' then
    l.inlineToken fun s => do
      let ((handle, suffix), s) ← tag s
      return (.tag handle suffix, s)
  else if c == '|' && !l.inFlow then l.block false
  else if c == '>' && !l.inFlow then l.block true
  else if c == '\'' || c == '"' then l.inlineToken (quoted c)
  else if startsPlain l.inFlow c following then l.plain
  else malformed

/-- The end of the text is a place to go on from, unless the text cannot be read on there. -/
def checkEnd (l : Lexer) : Except Fault Unit :=
  match l.stop with
  | some f => if l.source.rest.isEmpty then .error f else .ok ()
  | none => .ok ()

/-- The fault that is met instead of another one, if the text cannot be read on at its end because of
`stop`: a text that ends too early does so because it cannot be read on. -/
def faultBefore (stop : Option Fault) : Fault → Fault
  | .unfinished => stop.getD .unfinished
  | f => f

/-- One token further, or more where one stands for others. -/
def next (l : Lexer) : Except Fault Lexer := do
  let l := skipBlanks (l.source.left + 1) { l with source := skipByteOrderMark l.source }
  l.checkEnd
  let l ← l.dropStale
  let l := l.closeBelow l.source.column
  match l.source.peek with
  | none => l.endStream
  | some c =>
    let stop := l.stop
    let l ← (l.tokenAt c).mapError (faultBefore stop)
    l.checkEnd
    return l

/-- Whether the text has to be split further before a token is handed out: none is there, or a key may
start with the next one. -/
def isHeldBack (l : Lexer) : Bool :=
  l.tokens.isEmpty ||
    ((l.keyStart :: l.outerKeyStarts).filterMap (Option.map KeyStart.tokenCount)).min? ==
      some l.handedOut

/-- All tokens, after those that are handed out; the last one is the end of the text or the first
fault. -/
def run (before : Array Token) : (steps : Nat) → Lexer → Array Token
  | 0, l => before ++ l.tokens
  | steps + 1, l =>
    if l.tokens.back? == some .streamEnd then before ++ l.tokens
    else
      match (if l.tokens.isEmpty then .ok l else l.dropStale) with
      | .error f => before.push (.fault f)
      | .ok l =>
        if l.isHeldBack then
          match l.next with
          | .error f => before.push (.fault f)
          | .ok l => run before steps l
        else
          run (before ++ l.tokens.take 1) steps
            { l with tokens := l.tokens.drop 1, handedOut := l.handedOut + 1 }

end Lexer

/-- The tokens of a text; the last one is the end of the text or the first fault. -/
def tokens (input : Input) : Array Token :=
  (Lexer.ofInput input).run #[] (8 * input.text.length + 16)

end DeclSplit.Yaml
