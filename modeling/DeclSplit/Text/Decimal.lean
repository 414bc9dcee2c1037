import DeclSplit.Text.Blank

/-!
# Decimal digits

Every script with decimal digits of its own has them in one run of ten characters (Unicode,
version 14), and numbers can be written in any of them.

* `Text.digitValue?` — the value of a decimal digit of any script;
* `Text.numeralForm` — a character as it counts in a number.
-/

namespace DeclSplit.Text

/-- The code points of the zeros of all scripts. -/
def decimalZeros : List Nat :=
  [0x30, 0x660, 0x6f0, 0x7c0, 0x966, 0x9e6, 0xa66, 0xae6, 0xb66, 0xbe6, 0xc66, 0xce6, 0xd66,
   0xde6, 0xe50, 0xed0, 0xf20, 0x1040, 0x1090, 0x17e0, 0x1810, 0x1946, 0x19d0, 0x1a80, 0x1a90,
   0x1b50, 0x1bb0, 0x1c40, 0x1c50, 0xa620, 0xa8d0, 0xa900, 0xa9d0, 0xa9f0, 0xaa50, 0xabf0, 0xff10,
   0x104a0, 0x10d30, 0x11066, 0x110f0, 0x11136, 0x111d0, 0x112f0, 0x11450, 0x114d0, 0x11650,
   0x116c0, 0x11730, 0x118e0, 0x11950, 0x11c50, 0x11d50, 0x11da0, 0x16a60, 0x16ac0, 0x16b50,
   0x1d7ce, 0x1d7d8, 0x1d7e2, 0x1d7ec, 0x1d7f6, 0x1e140, 0x1e2f0, 0x1e950, 0x1fbf0]

/-- The value of a decimal digit of any script. -/
def digitValue? (c : Char) : Option Nat :=
  (decimalZeros.find? fun first => first ≤ c.toNat && c.toNat < first + 10).map (c.toNat - ·)

/-- A character as it counts in a number: digits of all scripts count as those of ASCII, and so do
blanks. -/
def numeralForm (c : Char) : Char :=
  if c.toNat < 127 then c
  else if isBlank c then ' '
  else
    match digitValue? c with
    | some d => Char.ofNat ('0'.toNat + d)
    | none => c

/-- Whether a character counts for nothing before and after a number. -/
def isNumeralBlank (c : Char) : Bool :=
  c == ' ' || ('\t' ≤ c && c ≤ '\r')

/-- The characters of a text as they count in a number, without the blanks around them. -/
def numeral (text : List Char) : List Char :=
  let text := (text.map numeralForm).dropWhile isNumeralBlank
  (text.reverse.dropWhile isNumeralBlank).reverse

example : numeral [' ', '٣', '१', '\n'] = ['3', '1'] := by decide

end DeclSplit.Text
