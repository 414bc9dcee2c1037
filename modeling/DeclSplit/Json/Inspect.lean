import DeclSplit.Json
import DeclSplit.Text.Quoted

/-!
# Values in messages

* `Json.inspect` — how a message shows a value: texts quoted, arrays and objects in their brackets.
-/

namespace DeclSplit.Json

mutual

/-- How a message shows a value. -/
def inspect : Json → String
  | .null => "None"
  | .bool b => if b then "True" else "False"
  | .int n => toString n
  | .float x => Number.text x
  | .str s => Text.quoted s
  | .arr items => "[" ++ ", ".intercalate (inspectItems items) ++ "]"
  | .obj members => "\x7b" ++ ", ".intercalate (inspectMembers members) ++ "\x7d"

/-- The items of an array, one by one. -/
def inspectItems : List Json → List String
  | [] => []
  | v :: vs => v.inspect :: inspectItems vs

/-- The members of an object, one by one. -/
def inspectMembers : List (String × Json) → List String
  | [] => []
  | (name, v) :: rest => (Text.quoted name ++ ": " ++ v.inspect) :: inspectMembers rest

end

end DeclSplit.Json
