import DeclSplit.Text.Hex

/-!
# UTF-8

* `Text.Utf8.fault?` — the first place where bytes are not well-formed UTF-8;
* `Text.Utf8.decode` — the text of bytes, or the first fault in them;
* `Text.Utf8.Fault` — the faults, with their wording.
-/

namespace DeclSplit.Text.Utf8

/-- What is wrong at a place. -/
inductive Reason where
  | invalidStart
  | invalidContinuation
  | unexpectedEnd
  deriving DecidableEq, Repr

/-- The bytes at a place that cannot be decoded. -/
structure Fault where
  position : Nat
  bytes : List UInt8
  reason : Reason
  deriving DecidableEq, Repr

/-- The wording of a reason. -/
def Reason.wording : Reason → String
  | .invalidStart => "invalid start byte"
  | .invalidContinuation => "invalid continuation byte"
  | .unexpectedEnd => "unexpected end of data"

/-- The wording of a fault.  The bytes of a character that is cut off at the end are counted on their
own. -/
def Fault.message (f : Fault) : String :=
  let first := if f.reason = .unexpectedEnd then 0 else f.position
  let place :=
    match f.bytes with
    | [b] => s!"byte 0x{String.ofList (hexDigits 2 b.toNat)} in position {first}"
    | bytes => s!"bytes in position {first}-{first + bytes.length - 1}"
  s!"'utf-8' codec can't decode {place}: {f.reason.wording}"

/-- Whether a byte goes on with a character. -/
def isContinuation (b : UInt8) : Bool :=
  0x80 ≤ b && b < 0xc0

/-- The number of bytes of a character by its first byte, none if no character starts so. -/
def sequenceLength (b : UInt8) : Nat :=
  if b < 0x80 then 1
  else if b < 0xc2 then 0
  else if b < 0xe0 then 2
  else if b < 0xf0 then 3
  else if b < 0xf5 then 4
  else 0

/-- Whether a second byte may follow a first one: no overlong forms, no surrogates, nothing above
the last character. -/
def secondIsValid (first second : UInt8) : Bool :=
  isContinuation second &&
    (first != 0xe0 || 0xa0 ≤ second) && (first != 0xed || second < 0xa0) &&
    (first != 0xf0 || 0x90 ≤ second) && (first != 0xf4 || second < 0x90)

/-- The number of bytes after the first that go on with a character. -/
def validTail (first : UInt8) (rest : List UInt8) : Nat :=
  match rest with
  | [] => 0
  | second :: rest =>
    if secondIsValid first second then 1 + (rest.takeWhile isContinuation).length else 0

/-- The first fault in bytes, of which `position` came before; `skip` of them belong to a character
that was found well formed. -/
def faultFrom (position skip : Nat) : List UInt8 → Option Fault
  | [] => none
  | b :: rest =>
    match skip with
    | skip + 1 => faultFrom (position + 1) skip rest
    | 0 =>
      let length := sequenceLength b
      if length = 0 then some ⟨position, [b], .invalidStart⟩
      else if length = 1 then faultFrom (position + 1) 0 rest
      else
        let tail := min (validTail b rest) (length - 1)
        if tail = length - 1 then faultFrom (position + 1) tail rest
        else
          let reason := if tail = rest.length then .unexpectedEnd else .invalidContinuation
          some ⟨position, (b :: rest).take (tail + 1), reason⟩

/-- The first place where bytes are not well-formed UTF-8. -/
def fault? (bytes : List UInt8) : Option Fault :=
  faultFrom 0 0 bytes

/-- The text of bytes, or the first fault in them. -/
def decode (bytes : List UInt8) : Except Fault String :=
  match fault? bytes with
  | some f => .error f
  | none => .ok ((String.fromUTF8? ⟨bytes.toArray⟩).getD "")

example : fault? [0x61, 0xc3, 0x5d] = some ⟨1, [0xc3], .invalidContinuation⟩ := by decide

example : fault? [0xe5, 0x90, 0x8d] = none := by decide

end DeclSplit.Text.Utf8
