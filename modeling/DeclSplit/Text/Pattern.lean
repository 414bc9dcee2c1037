/-!
# Patterns

Regular expressions over characters.  A text is matched character by character: what is left of a
pattern after a first character is a pattern again, and the text matches if what is left at its end
matches the empty text.

* `Text.Pattern` — the patterns;
* `Text.Pattern.after` — what is left of a pattern after a character;
* `Text.Pattern.accepts` — whether a whole text matches.
-/

namespace DeclSplit.Text

/-- A regular expression. -/
inductive Pattern where
  /-- No text. -/
  | never
  /-- The empty text. -/
  | empty
  /-- One character of a class. -/
  | char (inClass : Char → Bool)
  /-- One text after another. -/
  | seq (p q : Pattern)
  /-- Either of two. -/
  | alt (p q : Pattern)
  /-- Any number of texts, one after another. -/
  | star (p : Pattern)

namespace Pattern

/-- One pattern after another, with what can never match left out. -/
def joined : Pattern → Pattern → Pattern
  | .never, _ => .never
  | .empty, q => q
  | p, q => .seq p q

/-- Either of two patterns, with what can never match left out. -/
def either : Pattern → Pattern → Pattern
  | .never, q => q
  | p, .never => p
  | p, q => .alt p q

/-- Whether the empty text matches. -/
def acceptsEmpty : Pattern → Bool
  | .never | .char _ => false
  | .empty | .star _ => true
  | .seq p q => p.acceptsEmpty && q.acceptsEmpty
  | .alt p q => p.acceptsEmpty || q.acceptsEmpty

/-- The pattern of the texts that match after the character `c`. -/
def after (c : Char) : Pattern → Pattern
  | .never | .empty => .never
  | .char inClass => if inClass c then .empty else .never
  | .seq p q =>
    let first := joined (p.after c) q
    if p.acceptsEmpty then either first (q.after c) else first
  | .alt p q => either (p.after c) (q.after c)
  | .star p => joined (p.after c) (.star p)

/-- Whether a whole text matches. -/
def accepts (p : Pattern) (text : List Char) : Bool :=
  (text.foldl (fun p c => p.after c) p).acceptsEmpty

/-! ### Common patterns -/

/-- The pattern of one text. -/
def ofText : List Char → Pattern
  | [] => .empty
  | c :: cs => .seq (.char (· == c)) (ofText cs)

/-- One of the characters of a text. -/
def oneOf (text : List Char) : Pattern :=
  .char text.contains

/-- The patterns one after another. -/
def all : List Pattern → Pattern
  | [] => .empty
  | p :: ps => .seq p (all ps)

/-- Any of the patterns. -/
def any : List Pattern → Pattern
  | [] => .never
  | p :: ps => .alt p (any ps)

/-- The pattern or nothing. -/
def optional (p : Pattern) : Pattern :=
  .alt .empty p

/-- The pattern at least once. -/
def many (p : Pattern) : Pattern :=
  .seq p (.star p)

/-- A decimal digit. -/
def digit : Pattern :=
  .char Char.isDigit

example : (many digit).accepts ['1', '2'] = true ∧ (many digit).accepts ['1', 'x'] = false := by
  decide

end Pattern

end DeclSplit.Text
