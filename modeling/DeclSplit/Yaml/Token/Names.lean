import DeclSplit.Text.Utf8
import DeclSplit.Yaml.Source
import DeclSplit.Yaml.Token

/-!
# Anchors, tags and directives

* `Yaml.anchorName` — the name of an anchor or an alias;
* `Yaml.tag` — a tag;
* `Yaml.directive` — a directive.
-/

namespace DeclSplit.Yaml

/-- The reading of a text that is not well formed. -/
def malformed {α : Type} : Except Fault α :=
  .error .malformed

/-- The reading of a text that is not well formed, or over, at the given place. -/
def malformedAt {α : Type} (s : Source) : Except Fault α :=
  .error (if s.rest.isEmpty then .unfinished else .malformed)

/-! ### Anchors and aliases -/

/-- The name after the sign of an anchor or an alias. -/
def anchorName (s : Source) : Except Fault (List Char × Source) :=
  let (name, s) := s.next.span isNameChar
  let ends := match s.peek with
    | none => true
    | some c => endsWord (some c) || ['?', ':', ',', ']', '\x7d', '%', '@', '\x60'].contains c
  if name.isEmpty || !ends then malformedAt s else .ok (name, s)

/-- The number of the next so many hexadecimal digits. -/
def hexNumber (count : Nat) (cs : List Char) : Except Fault Nat :=
  let digits := cs.take count
  match Text.hexNumber? digits with
  | some n => if digits.length < count then .error .unfinished else .ok n
  | none => malformed

/-! ### Tags -/

/-- Whether a character can stand in a tag as itself. -/
def isUriChar (c : Char) : Bool :=
  isNameChar c ||
    [';', '/', '?', ':', '@', '&', '=', '+', '$', ',', '.', '!', '~', '*', '\'', '(', ')', '[',
      ']'].contains c

/-- The bytes of escapes, each a percent sign and two hexadecimal digits. -/
def uriEscapes : (steps : Nat) → Source → Except Fault (List UInt8 × Source)
  | 0, s => .ok ([], s)
  | steps + 1, s =>
    match s.rest with
    | '%' :: digits =>
      match hexNumber 2 digits with
      | .ok n => do
        let (bytes, s) ← uriEscapes steps (s.skip 3)
        .ok (UInt8.ofNat n :: bytes, s)
      | .error f => .error f
    | _ => .ok ([], s)

/-- The characters of a tag, of which there may be none. -/
def uriChars : (steps : Nat) → Source → Except Fault (List Char × Source)
  | 0, s => .ok ([], s)
  | steps + 1, s =>
    match s.peek with
    | some '%' => do
      let (bytes, s) ← uriEscapes (steps + 1) s
      match Text.Utf8.decode bytes with
      | .error _ => malformedAt s
      | .ok text =>
        let (rest, s) ← uriChars steps s
        .ok (text.toList ++ rest, s)
    | some c =>
      if isUriChar c then do
        let (rest, s) ← uriChars steps s.next
        .ok (c :: rest, s)
      else .ok ([], s)
    | none => .ok ([], s)

/-- The characters of a tag, at least one. -/
def uri (s : Source) : Except Fault (List Char × Source) := do
  let (chars, s) ← uriChars (s.left + 1) s
  if chars.isEmpty then malformedAt s else .ok (chars, s)

/-- The handle of a tag: one exclamation mark, or a name between two. -/
def tagHandle (s : Source) : Except Fault (List Char × Source) :=
  match s.rest with
  | '!' :: ' ' :: _ => .ok (['!'], s.next)
  | '!' :: _ =>
    let (name, s) := s.next.span isNameChar
    if s.peek == some '!' then .ok ('!' :: name ++ ['!'], s.next) else malformedAt s
  | _ => malformedAt s

/-- Whether a tag has an exclamation mark after its first character. -/
def hasHandle (s : Source) : Bool :=
  (s.next.rest.takeWhile fun c => !endsField (some c)).contains '!'

/-- A tag with its handle, if it has one. -/
def tag (s : Source) : Except Fault ((Option (List Char) × List Char) × Source) := do
  let (result, s) ← (match s.peekAt 1 with
    | some '<' => do
      let (suffix, s) ← uri (s.skip 2)
      if s.peek == some '>' then Except.ok ((none, suffix), s.next) else malformedAt s
    | c =>
      if endsWord c then .ok ((none, ['!']), s.next)
      else if hasHandle s then do
        let (handle, s) ← tagHandle s
        let (suffix, s) ← uri s
        .ok ((some handle, suffix), s)
      else do
        let (suffix, s) ← uri s.next
        .ok ((some ['!'], suffix), s) : Except Fault ((Option (List Char) × List Char) × Source))
  if endsField s.peek then .ok (result, s) else malformedAt s

/-! ### Directives -/

/-- A number in a directive. -/
def directiveNumber (s : Source) : Except Fault (Nat × Source) :=
  let (digits, s) := s.span Char.isDigit
  if digits.isEmpty then malformedAt s
  else if 4300 < digits.length then .error (.tooManyDigits digits.length)
  else .ok (digits.foldl (fun n c => 10 * n + (c.toNat - '0'.toNat)) 0, s)

/-- The version of YAML. -/
def versionDirective (s : Source) : Except Fault (Directive × Source) := do
  let (major, s) ← directiveNumber (s.skipWhile (· == ' '))
  if s.peek != some '.' then malformedAt s
  let (minor, s) ← directiveNumber s.next
  if endsField s.peek then .ok (.version major minor, s) else malformed

/-- What a tag handle stands for. -/
def tagHandleDirective (s : Source) : Except Fault (Directive × Source) := do
  let (handle, s) ← tagHandle (s.skipWhile (· == ' '))
  if s.peek != some ' ' then malformedAt s
  let (stem, s) ← uri (s.skipWhile (· == ' '))
  if endsField s.peek then .ok (.tagHandle handle stem, s) else malformed

/-- A directive with the rest of its line. -/
def directive (s : Source) : Except Fault (Directive × Source) := do
  let (name, s) := s.next.span isNameChar
  if name.isEmpty || !endsField s.peek then malformedAt s
  let (d, s) ← (
    if name = ['Y', 'A', 'M', 'L'] then versionDirective s
    else if name = ['T', 'A', 'G'] then tagHandleDirective s
    else .ok (.other, s.skipWhile fun c => !isBreak c))
  let s := s.skipComment
  if endsLine s.peek then .ok (d, s.skipBreak) else malformed

end DeclSplit.Yaml
