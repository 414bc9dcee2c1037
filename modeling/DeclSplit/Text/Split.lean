/-!
# Splitting text

* `Text.splitOn` — the parts of a text between the occurrences of a character;
* `Text.splitLines` — the parts of a text between the characters that end lines.
-/

namespace DeclSplit.Text

/-- The parts of a text between the occurrences of `mark`; always one more than there are marks. -/
def splitOn (mark : Char) : List Char → List (List Char)
  | [] => [[]]
  | c :: cs =>
    match splitOn mark cs with
    | [] => [[c]]
    | part :: parts => if c = mark then [] :: part :: parts else (c :: part) :: parts

theorem splitOn_ne_nil (mark : Char) (cs : List Char) : splitOn mark cs ≠ [] := by
  cases cs with
  | nil => simp [splitOn]
  | cons c cs => simp only [splitOn]; split <;> (try split) <;> simp

/-- The part after the last occurrence of `mark`, the whole text if there is none. -/
def afterLast (mark : Char) (cs : List Char) : List Char :=
  (splitOn mark cs).getLast (splitOn_ne_nil mark cs)

/-- Whether a character ends a line, in any script. -/
def endsLine (c : Char) : Bool :=
  ('\n' ≤ c && c ≤ '\r') || ('\x1c' ≤ c && c ≤ '\x1e') ||
    ['\x85', '\u2028', '\u2029'].contains c

/-- The parts of a text between the characters that end lines; always one more than there are of
those. -/
def splitLines (text : List Char) : List (List Char) :=
  splitOn '\n' (text.map fun c => if endsLine c then '\n' else c)

example : splitOn '_' ['_', 'A', '_', '_', 'B'] = [[], ['A'], [], ['B']] := by decide

end DeclSplit.Text
