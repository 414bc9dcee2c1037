import DeclSplit.Limits
import DeclSplit.Yaml.Graph.Read
import DeclSplit.Yaml.Graph.Value
import DeclSplit.Yaml.Token.Lexer

/-!
# YAML documents

* `Yaml.parse` — the value of an input with one document, or why it has none.
-/

namespace DeclSplit.Yaml

/-- The value, to the given depth, of an input with one document; null if there is no document. -/
def parse (limits : Limits) (depth : Nat) (input : Input) : Except Fault Value := do
  match ← Graph.ofTokens limits.collections (tokens input) with
  | none => return .null
  | some g => g.value limits.standIns depth

end DeclSplit.Yaml
