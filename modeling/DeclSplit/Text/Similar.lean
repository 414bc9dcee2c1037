/-!
# Similar words

How much two words have in common: the longest run of characters that is in both, with what they have
in common before it and after it.

* `Text.sharedLength` — the number of characters that two words have in common;
* `Text.nearest` — the words of a list that are most like a given one.
-/

namespace DeclSplit.Text

/-- The number of characters with which two words both begin. -/
def commonStart : List Char → List Char → Nat
  | a :: as, b :: bs => if a = b then commonStart as bs + 1 else 0
  | _, _ => 0

/-- A run of characters that is in two words: where it begins in each, and its length. -/
structure SharedRun where
  first : Nat
  second : Nat
  length : Nat
  deriving DecidableEq, Repr

/-- The longest run that is in both words; of several the one that begins earliest in the first word,
then in the second. -/
def longestRun (as bs : List Char) : SharedRun :=
  let runs := (List.range as.length).flatMap fun i =>
    (List.range bs.length).map fun j => SharedRun.mk i j (commonStart (as.drop i) (bs.drop j))
  runs.foldl (fun best run => if best.length < run.length then run else best) ⟨0, 0, 0⟩

/-- The number of characters that two words have in common, for a first word of at most so many
characters. -/
def sharedWithin : (size : Nat) → List Char → List Char → Nat
  | 0, _, _ => 0
  | size + 1, as, bs =>
    let run := longestRun as bs
    if run.length = 0 then 0
    else
      sharedWithin size (as.take run.first) (bs.take run.second) + run.length +
        sharedWithin size (as.drop (run.first + run.length)) (bs.drop (run.second + run.length))

/-- The number of characters that two words have in common. -/
def sharedLength (a b : List Char) : Nat :=
  sharedWithin a.length a b

/-- A word with its likeness to another one: the characters that both have in common, of those in
both. -/
structure Likeness where
  word : String
  shared : Nat
  total : Nat

/-- The likeness of a word to the given one. -/
def Likeness.of (given word : String) : Likeness :=
  ⟨word, sharedLength word.toList given.toList, word.length + given.length⟩

/-- Whether two words are enough alike: three fifths of all characters are in common. -/
def Likeness.isNear (l : Likeness) : Bool :=
  decide (3 * l.total ≤ 10 * l.shared)

/-- Whether one word is at least as much alike as another, or comes no earlier in order. -/
def Likeness.atLeast (l m : Likeness) : Bool :=
  if l.shared * m.total = m.shared * l.total then decide (m.word ≤ l.word)
  else decide (m.shared * l.total ≤ l.shared * m.total)

/-- The number of similar words that are looked for. -/
def nearestCount : Nat := 3

/-- The words that are most like the given one, if they are enough alike, in order. -/
def nearest (given : String) (words : List String) : List String :=
  let near := (words.map (Likeness.of given)).filter Likeness.isNear
  let best := (near.mergeSort Likeness.atLeast).take nearestCount
  (best.map Likeness.word).mergeSort fun a b => decide (a ≤ b)

example : sharedLength "--help".toList "--h".toList = 3 := by decide +kernel

end DeclSplit.Text
