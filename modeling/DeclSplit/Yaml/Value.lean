import DeclSplit.Json

/-!
# YAML values

* `Yaml.Value` — the values of a YAML document;
* `Yaml.Value.typeName` — the name that messages have for the type of a value;
* `Yaml.Value.isTruthy` — every value but null, false, zero and what is empty;
* `Yaml.Value.ofEntries`, `Yaml.Value.ofMembers` — the mapping of entries and the set of members, in
  which each text counts once;
* `Yaml.Value.ofJson` — every JSON value is a YAML value.
-/

namespace DeclSplit.Yaml

/-- A value of a YAML document.  A collection can hold itself, so a value is known to some depth only:
of collections that lie deeper it is known that they are there and are not empty. -/
inductive Value where
  | null
  | bool (b : Bool)
  | int (n : Int)
  | float (x : Float)
  | str (s : String)
  | bytes (contents : List UInt8)
  | date (year month day : Nat)
  | datetime (year month day hour minute second : Nat)
  | list (items : List Value)
  | set (items : List Value)
  | dict (entries : List (Value × Value))
  /-- A list that lies too deep. -/
  | deepList
  /-- A set that lies too deep. -/
  | deepSet
  /-- A mapping that lies too deep. -/
  | deepDict
  deriving Inhabited

namespace Value

/-- The name that messages have for the type of a value. -/
def typeName : Value → String
  | .null => "NoneType"
  | .bool _ => "bool"
  | .int _ => "int"
  | .float _ => "float"
  | .str _ => "str"
  | .bytes _ => "bytes"
  | .date .. => "date"
  | .datetime .. => "datetime"
  | .list _ | .deepList => "list"
  | .set _ | .deepSet => "set"
  | .dict _ | .deepDict => "dict"

/-- Whether the value is none of null, false, zero and what is empty. -/
def isTruthy : Value → Bool
  | .null => false
  | .bool b => b
  | .int n => n != 0
  | .float x => x != 0
  | .str s => s != ""
  | .bytes contents => !contents.isEmpty
  | .list items | .set items => !items.isEmpty
  | .dict entries => !entries.isEmpty
  | .date .. | .datetime .. | .deepList | .deepSet | .deepDict => true

/-- The text of a text. -/
def str? : Value → Option String
  | .str s => some s
  | _ => none

/-- Entries without those whose key, a text, comes again later on. -/
def lastEntries : List (Value × Value) → List (Value × Value)
  | [] => []
  | entry :: rest =>
    let comesAgain := entry.1.str?.isSome && rest.any fun other => other.1.str? == entry.1.str?
    if comesAgain then lastEntries rest else entry :: lastEntries rest

/-- The mapping of the given entries; of two for one text the later one counts. -/
def ofEntries (entries : List (Value × Value)) : Value :=
  .dict (lastEntries entries)

/-- The set of the given members; each text is in it once. -/
def ofMembers (members : List Value) : Value :=
  .set ((lastEntries (members.map fun member => (member, .null))).map Prod.fst)

/-- The value of the entry of a mapping with the given text as its key. -/
def get? (key : String) : Value → Option Value
  | .dict entries => (entries.find? fun entry => entry.1.str? == some key).map Prod.snd
  | _ => none

mutual

/-- The YAML value of a JSON value. -/
def ofJson : Json → Value
  | .null => .null
  | .bool b => .bool b
  | .int n => .int n
  | .float x => .float x
  | .str s => .str s
  | .arr items => .list (ofJsonItems items)
  | .obj members => .dict (ofJsonMembers members)

/-- The YAML values of the items of an array. -/
def ofJsonItems : List Json → List Value
  | [] => []
  | v :: vs => ofJson v :: ofJsonItems vs

/-- The entries of the members of an object. -/
def ofJsonMembers : List (String × Json) → List (Value × Value)
  | [] => []
  | (name, v) :: rest => (.str name, ofJson v) :: ofJsonMembers rest

end

end Value

end DeclSplit.Yaml
