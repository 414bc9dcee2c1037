import DeclSplit.Text.Hex
import DeclSplit.Text.Printable

/-!
# Quoted text

How messages show a text: between quotation marks, on one line, with every character that cannot be
shown written as an escape.

* `Text.quoted` — a text between single quotation marks, or between double ones where it holds
  single ones and no double ones.
-/

namespace DeclSplit.Text

/-- A character between the given quotation marks. -/
def quotedChar (mark c : Char) : List Char :=
  if c = mark ∨ c = '\\' then ['\\', c]
  else if c = '\n' then ['\\', 'n']
  else if c = '\r' then ['\\', 'r']
  else if c = '\t' then ['\\', 't']
  else if isPrintable c then [c]
  else if c.toNat < 0x100 then '\\' :: 'x' :: hexDigits 2 c.toNat
  else if c.toNat < 0x10000 then '\\' :: 'u' :: hexDigits 4 c.toNat
  else '\\' :: 'U' :: hexDigits 8 c.toNat

/-- The quotation mark for a text: the double one where that spares an escape. -/
def quotationMark (text : List Char) : Char :=
  if text.contains '\'' && !text.contains '"' then '"' else '\''

/-- The text between quotation marks. -/
def quoted (text : String) : String :=
  let mark := quotationMark text.toList
  .ofList (mark :: text.toList.flatMap (quotedChar mark) ++ [mark])

end DeclSplit.Text
