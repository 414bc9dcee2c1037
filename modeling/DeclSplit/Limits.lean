/-!
# Limits

Functions that call themselves for what is inside of what they work on can do so only up to a limit,
which depends on where and how the program runs.

* `Limits` — how deep each of them gets.
-/

namespace DeclSplit

/-- How deep the functions that call themselves get. -/
structure Limits where
  /-- The levels of a tree that can be written as JSON. -/
  writing : Nat
  /-- The levels of a document that can be read as a tree. -/
  reading : Nat
  /-- The collections that can be in one another in a YAML document. -/
  collections : Nat
  /-- The mappings that can stand for one scalar, each for the next. -/
  standIns : Nat
  deriving DecidableEq, Repr

end DeclSplit
