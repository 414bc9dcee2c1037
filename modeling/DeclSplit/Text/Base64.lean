/-!
# Base 64

Bytes in characters of six bits each.  Characters that have no value are passed over, and padding
ends the text once it completes a group of four.

* `Text.Base64.decode` — the bytes of a text, if its last group is complete.
-/

namespace DeclSplit.Text.Base64

/-- The six bits of a character. -/
def value? (c : Char) : Option Nat :=
  if 'A' ≤ c ∧ c ≤ 'Z' then some (c.toNat - 'A'.toNat)
  else if 'a' ≤ c ∧ c ≤ 'z' then some (c.toNat - 'a'.toNat + 26)
  else if '0' ≤ c ∧ c ≤ '9' then some (c.toNat - '0'.toNat + 52)
  else if c = '+' then some 62
  else if c = '/' then some 63
  else none

/-- The byte of the last bits of one character and the first of the next, which is the `place`-th of
its group. -/
def byte (place previous value : Nat) : UInt8 :=
  UInt8.ofNat (previous * Nat.pow 4 place + value / Nat.pow 4 (3 - place))

/-- The bytes from a place in a group on: `place` characters of the group came before, of which
`previous` is the last one, and `pads` signs of padding directly before. -/
def decodeFrom (place previous pads : Nat) : List Char → Option (List UInt8)
  | [] => if place = 0 then some [] else none
  | '=' :: rest =>
    if 2 ≤ place then
      if 4 ≤ place + pads + 1 then some [] else decodeFrom place previous (pads + 1) rest
    else decodeFrom place previous pads rest
  | c :: rest =>
    match value? c with
    | none => decodeFrom place previous pads rest
    | some v =>
      if place = 0 then decodeFrom 1 v 0 rest
      else (decodeFrom ((place + 1) % 4) v 0 rest).map (byte place previous v :: ·)

/-- The bytes of a text, if its last group is complete. -/
def decode (text : List Char) : Option (List UInt8) :=
  decodeFrom 0 0 0 text

example : decode ['a', 'G', 'k', '='] = some [0x68, 0x69] := by decide

end DeclSplit.Text.Base64
