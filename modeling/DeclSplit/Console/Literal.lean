import DeclSplit.Number.Literal
import DeclSplit.Text.Reading

/-!
# Literals

A tag for an action carries a value, which is written as a literal: a number, a text, a constant, or a
collection of literals.

* `Console.Literal.tokens` — the tokens of a text;
* `Console.isLiteral` — whether a text is a literal, or several with commas between them.
-/

namespace DeclSplit.Console

namespace Literal

/-- A part of a literal. -/
inductive Token where
  | number (imaginary : Bool)
  | text (bytes : Bool)
  /-- A name that stands for a constant. -/
  | constant
  /-- The name of the function that makes sets. -/
  | set
  | mark (c : Char)
  deriving DecidableEq, Repr

/-! ### Numbers -/

/-- Whether a character can be part of a name. -/
def isNameChar (c : Char) : Bool :=
  c.isAlphanum || c == '_' || 128 ≤ c.toNat

/-- Digits with single underscores between them, and what is after them. -/
def digits (isDigit : Char → Bool) : List Char → List Char × List Char
  | '_' :: c :: rest =>
    if isDigit c then
      let (found, after) := digits isDigit rest
      (c :: found, after)
    else ([], '_' :: c :: rest)
  | c :: rest =>
    if isDigit c then
      let (found, after) := digits isDigit rest
      (c :: found, after)
    else ([], c :: rest)
  | [] => ([], [])

/-- The number that ends before `rest`; no name can follow it. -/
def endNumber (imaginary : Bool) (rest : List Char) : Option (Token × List Char) :=
  if rest.head?.any isNameChar then none else some (.number imaginary, rest)

/-- The end of a decimal number after its digits, of which there are some. -/
def finishNumber : List Char → Option (Token × List Char)
  | [] => some (.number false, [])
  | c :: rest =>
    if c.toLower = 'j' then endNumber true rest else endNumber false (c :: rest)

/-- The exponent of a decimal number, if there is one, and the end of the number. -/
def exponent : List Char → Option (Token × List Char)
  | [] => some (.number false, [])
  | c :: rest =>
    if c.toLower = 'e' then
      let (found, after) := digits Char.isDigit (Number.splitSign rest).2
      if found.isEmpty || (Number.splitSign rest).2.head? = some '_' then none else finishNumber after
    else finishNumber (c :: rest)

/-- The decimal number that starts with these characters, a digit or a point with a digit after it. -/
def decimal (text : List Char) : Option (Token × List Char) :=
  let (whole, rest) := digits Char.isDigit text
  match rest with
  | '.' :: rest =>
    if rest.head? = some '_' then none else exponent (digits Char.isDigit rest).2
  | _ =>
    if rest.head?.any fun c => c.toLower = 'e' ∨ c.toLower = 'j' then exponent rest
    else if whole.any (· ≠ '0') ∧ (whole.head? = some '0' ∨ Number.maxDigits < whole.length) then
      none
    else endNumber false rest

/-- The number that starts with these characters. -/
def number : List Char → Option (Token × List Char)
  | '0' :: letter :: rest =>
    let base := if letter.isAlpha then
      [2, 8, 16].find? (Number.baseLetter? · = some letter.toLower) else none
    match base with
    | some base =>
      let (found, after) := digits (fun c => (Number.digitIn? base c).isSome) rest
      if found.isEmpty then none else endNumber false after
    | none => decimal ('0' :: letter :: rest)
  | text => decimal text

/-! ### Texts -/

/-- Whether so many hexadecimal digits stand here and their number is that of a character. -/
def codeHere (count : Nat) (text : List Char) : Bool :=
  let found := text.take count
  found.length = count && (Text.hexNumber? found).any (· < 0x110000)

/-- Whether a character is named in braces here. -/
def nameHere : List Char → Bool
  | '\x7b' :: rest =>
    rest.contains '\x7d' && rest.head? ≠ some '\x7d'
  | _ => false

/-- Whether all backslashes of a text start an escape that is whole. -/
def escapesAreWhole (bytes : Bool) : List Char → Bool
  | '\\' :: c :: rest =>
    (match c, bytes with
      | 'x', _ => codeHere 2 rest
      | 'u', false => codeHere 4 rest
      | 'U', false => codeHere 8 rest
      | 'N', false => nameHere rest
      | _, _ => true) && escapesAreWhole bytes rest
  | _ :: rest => escapesAreWhole bytes rest
  | [] => true

/-- What is before the closing quotes and what is after them; a text in single quotes ends in its
line. -/
def beforeQuotes (quote : Char) (triple : Bool) : List Char → Option (List Char × List Char)
  | '\\' :: c :: rest =>
    (beforeQuotes quote triple rest).map fun (inside, after) => ('\\' :: c :: inside, after)
  | c :: rest =>
    let closes := if triple then [quote, quote, quote].isPrefixOf (c :: rest) else c == quote
    if closes then some ([], (c :: rest).drop (if triple then 3 else 1))
    else if c = '\n' ∧ !triple then none
    else (beforeQuotes quote triple rest).map fun (inside, after) => (c :: inside, after)
  | [] => none

/-- The text in quotes that starts here, after a prefix that says how to read it. -/
def quoted (raw bytes : Bool) (text : List Char) : Option (Token × List Char) := do
  let quote ← text.head?
  let triple := [quote, quote, quote].isPrefixOf text
  let (inside, after) ← beforeQuotes quote triple (text.drop (if triple then 3 else 1))
  if bytes && inside.any (128 ≤ ·.toNat) then none
  else if !raw && !escapesAreWhole bytes inside then none
  else some (.text bytes, after)

/-- The prefixes of texts, with whether they take their meaning from backslashes and whether they make
bytes of the text. -/
def prefixes : List (String × Bool × Bool) :=
  [("", false, false), ("r", true, false), ("u", false, false), ("b", false, true),
    ("br", true, true), ("rb", true, true)]

/-- The names that stand for constants. -/
def constants : List String :=
  ["True", "False", "None"]

/-- The text with a prefix or the name that starts here. -/
def word (text : List Char) : Option (Token × List Char) :=
  let name := String.ofList (text.takeWhile isNameChar)
  let rest := text.dropWhile isNameChar
  if rest.head?.any fun c => c = '"' ∨ c = '\'' then
    (prefixes.lookup (String.ofList (name.toList.map Char.toLower))).bind fun (raw, bytes) =>
      quoted raw bytes rest
  else if constants.contains name then some (.constant, rest)
  else if name = "set" then some (.set, rest)
  else none

/-! ### Tokens -/

/-- The largest number of brackets around each other. -/
def maxBrackets : Nat := 200

/-- The bracket that closes what this one opens. -/
def closing? (c : Char) : Option Char :=
  [('(', ')'), ('\x7b', '\x7d')].lookup c

/-- Whether blanks stand before the first sign of a line. -/
def isIndented (text : List Char) : Bool :=
  let isGap (c : Char) : Bool := c == ' ' || c == '\t'
  text.head?.any isGap && (text.dropWhile isGap).head?.any fun c => c ≠ '\n' ∧ c ≠ '#'

/-- The tokens of a text, of which at most `steps` signs are read.  `opened` are the brackets that will
close the open ones; `started` says that there have been tokens, `ended` that there can be no more. -/
def tokensFrom : (steps : Nat) → (opened : List Char) → (started ended : Bool) → List Char →
    Option (List Token)
  | _, opened, _, _, [] => if opened.isEmpty then some [] else none
  | 0, _, _, _, _ => none
  | steps + 1, opened, started, ended, c :: rest =>
    if c = ' ' ∨ c = '\t' ∨ c = '\x0c' then tokensFrom steps opened started ended rest
    else if c = '#' then tokensFrom steps opened started ended (rest.dropWhile (· ≠ '\n'))
    else if c = '\n' then
      if opened.isEmpty && !started && isIndented rest then none
      else tokensFrom steps opened started (ended || (opened.isEmpty && started)) rest
    else if c = '\\' then
      match rest with
      | '\n' :: next :: rest => tokensFrom steps opened started ended (next :: rest)
      | _ => none
    else if ended then none
    else if let some close := closing? c then
      if opened.length < maxBrackets then
        (tokensFrom steps (close :: opened) true ended rest).map (.mark c :: ·)
      else none
    else if c = ')' ∨ c = '\x7d' then
      match opened with
      | close :: outer =>
        if c = close then (tokensFrom steps outer true ended rest).map (.mark c :: ·) else none
      | [] => none
    else if [',', ':', '+', '-'].contains c then
      (tokensFrom steps opened true ended rest).map (.mark c :: ·)
    else if ['.', '.', '.'].isPrefixOf (c :: rest) then
      (tokensFrom steps opened true ended (rest.drop 2)).map (.constant :: ·)
    else
      let read := if c.isDigit || (c == '.' && rest.head?.any Char.isDigit) then number else word
      match read (c :: rest) with
      | some (token, rest) => (tokensFrom steps opened true ended rest).map (token :: ·)
      | none => none

/-- The tokens of a text, unless one of them can be in no literal. -/
def tokens (text : List Char) : Option (List Token) :=
  if text.contains '\x00' then none
  else
    let text := Text.unifyLineEnds (text.dropWhile fun c => c == ' ' || c == '\t')
    tokensFrom (text.length + 1) [] false false text

/-! ### Values -/

/-- What tokens describe. -/
inductive Shape where
  | number (imaginary : Bool)
  /-- A number with a sign. -/
  | signed (imaginary : Bool)
  /-- Another value without parts. -/
  | constant
  /-- A collection; a fixed one can be in a set. -/
  | collection (fixed : Bool)
  /-- The function that makes sets, which is no value. -/
  | set
  deriving DecidableEq, Repr

/-- Whether a value can be in a set. -/
def Shape.isFixed : Shape → Bool
  | .collection fixed => fixed
  | .set => false
  | _ => true

/-- The function that makes sets, or the set that it makes without arguments. -/
def callSet : List Token → Shape × List Token
  | .mark '(' :: .mark ')' :: rest => (.collection false, rest)
  | ts => (.set, ts)

mutual

/-- The value at the start of the tokens that is no sum and has no sign. -/
def atom : (steps : Nat) → List Token → Option (Shape × List Token)
  | 0, _ | _, [] => none
  | steps + 1, t :: rest =>
    match t with
    | .number imaginary => some (.number imaginary, rest)
    | .constant => some (.constant, rest)
    | .set => some (callSet rest)
    | .text bytes =>
      match rest.dropWhile (· = .text bytes) with
      | .text _ :: _ => none
      | rest => some (.constant, rest)
    | .mark '(' =>
      if rest.head? = some (.mark ')') then some (.collection true, rest.tail)
      else do
        let (first, rest) ← expression steps rest
        match rest with
        | .mark ')' :: rest => return if first = .set then callSet rest else (first, rest)
        | .mark ',' :: rest =>
          let (fixed, rest) ← items steps rest
          if first ≠ .set ∧ rest.head? = some (.mark ')') then
            return (.collection (first.isFixed && fixed), rest.tail)
          else none
        | _ => none
    | .mark '\x7b' =>
      if rest.head? = some (.mark '\x7d') then some (.collection false, rest.tail)
      else do
        let (first, after) ← expression steps rest
        if after.head? = some (.mark ':') then return (.collection false, ← entries steps rest)
        else
          let (fixed, rest) ← items steps rest
          if first ≠ .set ∧ fixed ∧ rest.head? = some (.mark '\x7d') then
            return (.collection false, rest.tail)
          else none
    | .mark _ => none

/-- The value at the start of the tokens. -/
def expression : (steps : Nat) → List Token → Option (Shape × List Token)
  | 0, _ => none
  | steps + 1, ts => do
    let (first, rest) ←
      match ts with
      | .mark '+' :: ts | .mark '-' :: ts =>
        (match ← atom steps ts with
          | (.number imaginary, rest) => some (.signed imaginary, rest)
          | _ => none)
      | ts => atom steps ts
    match rest with
    | .mark '+' :: rest | .mark '-' :: rest =>
      let (second, rest) ← atom steps rest
      if (first = .number false ∨ first = .signed false) ∧ second = .number true then
        return (.constant, rest)
      else none
    | rest => return (first, rest)

/-- Values with commas between them, as many as there are, and whether all of them can be in a set. -/
def items : (steps : Nat) → List Token → Option (Bool × List Token)
  | 0, _ => none
  | _ + 1, [] => some (true, [])
  | steps + 1, ts@(t :: _) => do
    if t = .mark ')' ∨ t = .mark '\x7d' then return (true, ts)
    else
      let (first, rest) ← expression steps ts
      if first = .set then none
      else
        match rest with
        | .mark ',' :: rest =>
          let (fixed, rest) ← items steps rest
          return (first.isFixed && fixed, rest)
        | rest => return (first.isFixed, rest)

/-- The entries of a dictionary with commas between them and the brace that closes it. -/
def entries : (steps : Nat) → List Token → Option (List Token)
  | 0, _ => none
  | steps + 1, ts => do
    let (key, rest) ← expression steps ts
    match rest with
    | .mark ':' :: rest =>
      let (value, rest) ← expression steps rest
      if !key.isFixed || value = .set then none
      else
        match rest with
        | .mark '\x7d' :: rest => return rest
        | .mark ',' :: .mark '\x7d' :: rest => return rest
        | .mark ',' :: rest => entries steps rest
        | _ => none
    | _ => none

end

end Literal

/-- Whether a text is a literal, or several with commas between them. -/
def isLiteral (text : List Char) : Bool :=
  match Literal.tokens text with
  | none | some [] => false
  | some ts =>
    match Literal.items (3 * ts.length + 3) ts with
    | some (_, []) => true
    | _ => false

example : isLiteral "(1, -2.5e3, 'a' \"b\")".toList = true := by decide +kernel

example : isLiteral "f(1)".toList = false := by decide +kernel

end DeclSplit.Console
