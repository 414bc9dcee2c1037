/-!
# Blanks

* `Text.isBlank` — whether a character is white space, in any script;
* `Text.trimEnd` — a text without the blanks at its end.
-/

namespace DeclSplit.Text

/-- Whether a character is white space: the spaces, the characters that end lines and columns, and
the separators of the control characters. -/
def isBlank (c : Char) : Bool :=
  ('\t' ≤ c && c ≤ '\r') || ('\x1c' ≤ c && c ≤ ' ') || ('\u2000' ≤ c && c ≤ '\u200a') ||
    ['\x85', '\xa0', '\u1680', '\u2028', '\u2029', '\u202f', '\u205f', '\u3000'].contains c

/-- A text without the blanks at its end. -/
def trimEnd (text : List Char) : List Char :=
  (text.reverse.dropWhile isBlank).reverse

example : trimEnd [' ', 'a', ' ', '\u3000'] = [' ', 'a'] := by decide

end DeclSplit.Text
