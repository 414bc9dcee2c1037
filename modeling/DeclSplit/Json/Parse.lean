import DeclSplit.Json
import DeclSplit.Text.Hex

/-!
# Reading JSON

A reader for JSON texts as the standard gives their grammar.  Each reader takes the characters that
are left and returns what it read with the characters after it; its first argument bounds the
number of its steps.

* `Json.parse?` — the value of a text that holds one value and blanks.
-/

namespace DeclSplit.Json

open Text

/-- Whether a character is blank between the parts of a JSON text. -/
def isBlank (c : Char) : Bool :=
  c == ' ' || c == '\n' || c == '\r' || c == '\t'

/-- The characters from the first that is not blank. -/
def skipBlanks (cs : List Char) : List Char :=
  cs.dropWhile isBlank

/-! ### Texts -/

/-- The UTF-16 unit of four hexadecimal digits. -/
def unit? : List Char → Option (Nat × List Char)
  | a :: b :: c :: d :: rest => (hexNumber? [a, b, c, d]).map (·, rest)
  | _ => none

/-- The character of one UTF-16 unit, or of two where the first is the first half of a pair. -/
def escapedChar? (cs : List Char) : Option (Char × List Char) := do
  let (high, rest) ← unit? cs
  if 0xd800 ≤ high ∧ high < 0xdc00 then
    match rest with
    | '\\' :: 'u' :: rest =>
      let (low, rest) ← unit? rest
      if 0xdc00 ≤ low ∧ low < 0xe000 then
        some (.ofNat (0x10000 + (high - 0xd800) * 0x400 + (low - 0xdc00)), rest)
      else none
    | _ => none
  else if 0xdc00 ≤ high ∧ high < 0xe000 then none
  else some (.ofNat high, rest)

/-- The character that is written after a backslash. -/
def escape? : List Char → Option (Char × List Char)
  | '"' :: rest => some ('"', rest)
  | '\\' :: rest => some ('\\', rest)
  | '/' :: rest => some ('/', rest)
  | 'n' :: rest => some ('\n', rest)
  | 'r' :: rest => some ('\r', rest)
  | 't' :: rest => some ('\t', rest)
  | 'b' :: rest => some ('\x08', rest)
  | 'f' :: rest => some ('\x0c', rest)
  | 'u' :: rest => escapedChar? rest
  | _ => none

/-- The text up to the closing quotation mark. -/
def string? : Nat → List Char → Option (List Char × List Char)
  | 0, _ | _, [] => none
  | _ + 1, '"' :: rest => some ([], rest)
  | steps + 1, '\\' :: rest => do
    let (c, rest) ← escape? rest
    let (cs, rest) ← string? steps rest
    some (c :: cs, rest)
  | steps + 1, c :: rest => do
    if c < ' ' then none
    let (cs, rest) ← string? steps rest
    some (c :: cs, rest)

/-! ### Numbers -/

/-- The number that a list of decimal digits stands for. -/
def digitsValue (digits : List Char) : Nat :=
  digits.foldl (fun n c => 10 * n + (c.toNat - '0'.toNat)) 0

/-- The digits at the start, at least one. -/
def digits? (cs : List Char) : Option (List Char × List Char) :=
  match cs.takeWhile Char.isDigit with
  | [] => none
  | digits => some (digits, cs.dropWhile Char.isDigit)

/-- The digits before a decimal point: a zero alone or digits that do not start with one. -/
def whole? : List Char → Option (List Char × List Char)
  | '0' :: rest => some (['0'], rest)
  | cs => digits? cs

/-- The digits after a decimal point, if one follows. -/
def fraction? : List Char → Option (Option (List Char) × List Char)
  | '.' :: rest => (digits? rest).map fun (digits, rest) => (some digits, rest)
  | cs => some (none, cs)

/-- The exponent of ten, if one follows. -/
def exponent? : List Char → Option (Option Int × List Char)
  | c :: rest =>
    if c = 'e' ∨ c = 'E' then
      let (sign, rest) : Int × List Char :=
        match rest with
        | '-' :: rest => (-1, rest)
        | '+' :: rest => (1, rest)
        | rest => (1, rest)
      (digits? rest).map fun (digits, rest) => (some (sign * digitsValue digits), rest)
    else some (none, c :: rest)
  | [] => some (none, [])

/-- The number `± mantissa * 10 ^ exponent`, rounded. -/
def scientific (negative : Bool) (mantissa : Nat) (exponent : Int) : Float :=
  let exponent := max (-100000) (min 100000 exponent)
  let x := Float.ofScientific mantissa (exponent < 0) exponent.natAbs
  if negative then -x else x

/-- A number; it is whole unless it has a fraction or an exponent. -/
def number? (cs : List Char) : Option (Json × List Char) := do
  let (negative, cs) : Bool × List Char :=
    match cs with
    | '-' :: cs => (true, cs)
    | cs => (false, cs)
  let (whole, cs) ← whole? cs
  let (fraction, cs) ← fraction? cs
  let (exponent, cs) ← exponent? cs
  match fraction, exponent with
  | none, none =>
    let n : Int := digitsValue whole
    some (.int (if negative then -n else n), cs)
  | fraction, exponent =>
    let places := fraction.getD []
    some (.float (scientific negative (digitsValue (whole ++ places))
      (exponent.getD 0 - places.length)), cs)

/-! ### Values -/

/-- A member put after others; a name that is there already gets the new value in its place. -/
def setMember (members : List (String × Json)) (name : String) (v : Json) : List (String × Json) :=
  if members.any (·.1 == name) then
    members.map fun (k, old) => (k, if k = name then v else old)
  else
    members ++ [(name, v)]

/-- The object of the given members. -/
def ofMembers (members : List (String × Json)) : Json :=
  .obj (members.foldl (fun done (name, v) => setMember done name v) [])

mutual

/-- One value, which starts at the first character. -/
def value? : Nat → List Char → Option (Json × List Char)
  | 0, _ => none
  | steps + 1, cs =>
    match cs with
    | 'n' :: 'u' :: 'l' :: 'l' :: rest => some (.null, rest)
    | 't' :: 'r' :: 'u' :: 'e' :: rest => some (.bool true, rest)
    | 'f' :: 'a' :: 'l' :: 's' :: 'e' :: rest => some (.bool false, rest)
    | '"' :: rest => (string? steps rest).map fun (s, rest) => (.str (.ofList s), rest)
    | '[' :: rest =>
      match skipBlanks rest with
      | ']' :: rest => some (.arr [], rest)
      | rest => (items? steps rest).map fun (vs, rest) => (.arr vs, rest)
    | '\x7b' :: rest =>
      match skipBlanks rest with
      | '\x7d' :: rest => some (.obj [], rest)
      | rest => (members? steps rest).map fun (ms, rest) => (ofMembers ms, rest)
    | cs => number? cs

/-- The items of an array up to its closing bracket. -/
def items? : Nat → List Char → Option (List Json × List Char)
  | 0, _ => none
  | steps + 1, cs => do
    let (v, rest) ← value? steps cs
    match skipBlanks rest with
    | ']' :: rest => some ([v], rest)
    | ',' :: rest =>
      let (vs, rest) ← items? steps (skipBlanks rest)
      some (v :: vs, rest)
    | _ => none

/-- The members of an object up to its closing brace. -/
def members? : Nat → List Char → Option (List (String × Json) × List Char)
  | steps + 1, '"' :: rest => do
    let (name, rest) ← string? steps rest
    match skipBlanks rest with
    | ':' :: rest =>
      let (v, rest) ← value? steps (skipBlanks rest)
      match skipBlanks rest with
      | '\x7d' :: rest => some ([(.ofList name, v)], rest)
      | ',' :: rest =>
        let (ms, rest) ← members? steps (skipBlanks rest)
        some ((.ofList name, v) :: ms, rest)
      | _ => none
    | _ => none
  | _, _ => none

end

/-- The value of a text that holds one value and blanks around it. -/
def parse? (cs : List Char) : Option Json :=
  match value? (cs.length + 1) (skipBlanks cs) with
  | some (v, rest) => if (skipBlanks rest).isEmpty then some v else none
  | none => none

end DeclSplit.Json
