import DeclSplit.Number.Shortest

/-!
# JSON values

* `Json` — the values of a JSON document, with whole numbers kept apart from the others;
* `Json.member?`, `Json.contents?` — what a value holds;
* `Json.isTruthy` — every value but null, false, zero and what is empty;
* the order of values — by their class, numbers by value, texts by code points;
* `Json.same` — whether two values stand for the same: numbers count by value, and the members of
  objects in any order.
-/

namespace DeclSplit

/-- A JSON value; the members of an object are kept in order and have distinct names. -/
inductive Json where
  | null
  | bool (b : Bool)
  | int (n : Int)
  | float (x : Float)
  | str (s : String)
  | arr (items : List Json)
  | obj (members : List (String × Json))
  deriving Inhabited

namespace Json

/-! ### Equality -/

mutual

/-- Values are compared constructor by constructor. -/
def decEq : (v w : Json) → Decidable (v = w)
  | .null, .null => .isTrue rfl
  | .bool a, .bool b => decidable_of_iff (a = b) ⟨fun h => h ▸ rfl, fun h => by injection h⟩
  | .int a, .int b => decidable_of_iff (a = b) ⟨fun h => h ▸ rfl, fun h => by injection h⟩
  | .float a, .float b => decidable_of_iff (a = b) ⟨fun h => h ▸ rfl, fun h => by injection h⟩
  | .str a, .str b => decidable_of_iff (a = b) ⟨fun h => h ▸ rfl, fun h => by injection h⟩
  | .arr a, .arr b =>
    match decEqItems a b with
    | .isTrue h => .isTrue (h ▸ rfl)
    | .isFalse h => .isFalse fun e => h (by injection e)
  | .obj a, .obj b =>
    match decEqMembers a b with
    | .isTrue h => .isTrue (h ▸ rfl)
    | .isFalse h => .isFalse fun e => h (by injection e)
  | .null, .bool _ | .null, .int _ | .null, .float _ | .null, .str _ | .null, .arr _ | .null, .obj _
  | .bool _, .null | .bool _, .int _ | .bool _, .float _ | .bool _, .str _ | .bool _, .arr _
  | .bool _, .obj _ | .int _, .null | .int _, .bool _ | .int _, .float _ | .int _, .str _
  | .int _, .arr _ | .int _, .obj _ | .float _, .null | .float _, .bool _ | .float _, .int _
  | .float _, .str _ | .float _, .arr _ | .float _, .obj _ | .str _, .null | .str _, .bool _
  | .str _, .int _ | .str _, .float _ | .str _, .arr _ | .str _, .obj _ | .arr _, .null
  | .arr _, .bool _ | .arr _, .int _ | .arr _, .float _ | .arr _, .str _ | .arr _, .obj _
  | .obj _, .null | .obj _, .bool _ | .obj _, .int _ | .obj _, .float _ | .obj _, .str _
  | .obj _, .arr _ => .isFalse nofun

/-- Lists of values are compared place by place. -/
def decEqItems : (vs ws : List Json) → Decidable (vs = ws)
  | [], [] => .isTrue rfl
  | [], _ :: _ | _ :: _, [] => .isFalse nofun
  | v :: vs, w :: ws =>
    match decEq v w, decEqItems vs ws with
    | .isTrue h, .isTrue h' => .isTrue (by rw [h, h'])
    | .isFalse h, _ => .isFalse fun e => h (by injection e)
    | _, .isFalse h => .isFalse fun e => h (by injection e)

/-- Lists of members are compared place by place. -/
def decEqMembers : (vs ws : List (String × Json)) → Decidable (vs = ws)
  | [], [] => .isTrue rfl
  | [], _ :: _ | _ :: _, [] => .isFalse nofun
  | (k, v) :: vs, (l, w) :: ws =>
    if hk : k = l then
      match decEq v w, decEqMembers vs ws with
      | .isTrue h, .isTrue h' => .isTrue (by rw [hk, h, h'])
      | .isFalse h, _ => .isFalse fun e => h (by injection e with e; injection e)
      | _, .isFalse h => .isFalse fun e => h (by injection e)
    else
      .isFalse fun e => hk (by injection e with e; injection e)

end

instance : DecidableEq Json := decEq

/-! ### Contents -/

/-- The value of the member of an object with the given name. -/
def member? (name : String) : Json → Option Json
  | .obj members => members.lookup name
  | _ => none

/-- What a value is made of, in order: the items of an array, the characters of a text, the names
of the members of an object. -/
def contents? : Json → Option (List Json)
  | .arr items => some items
  | .str s => some (s.toList.map fun c => .str (.singleton c))
  | .obj members => some (members.map fun (name, _) => .str name)
  | _ => none

/-- Whether the value is neither an array nor an object. -/
def isScalar : Json → Bool
  | .arr _ | .obj _ => false
  | _ => true

/-- Whether the value is none of null, false, zero and what is empty. -/
def isTruthy : Json → Bool
  | .null => false
  | .bool b => b
  | .int n => n != 0
  | .float x => x != 0
  | .str s => s != ""
  | .arr items => !items.isEmpty
  | .obj members => !members.isEmpty

/-! ### Order -/

/-- The class of a value: null, numbers with the truth values among them, texts, all else. -/
def rank : Json → Nat
  | .null => 0
  | .bool _ | .int _ | .float _ => 1
  | .str _ => 2
  | .arr _ => 3
  | .obj _ => 4

/-- Where a value is beside the finite numbers: below them all, above them all, or none of them. -/
def reach : Json → Int
  | .float x => if x.isNaN then 2 else if x.isInf then (if x < 0 then -1 else 1) else 0
  | _ => 0

/-- The size of a finite number in units of `2 ^ -1074`; a truth value counts as one or zero. -/
def magnitude : Json → Int
  | .bool b => if b then Int.pow 2 1074 else 0
  | .int n => n * Int.pow 2 1074
  | .float x =>
    match Number.parts? x with
    | some p => p.units
    | none => 0
  | _ => 0

/-- The text of a text, the empty one for other values. -/
def textOf : Json → String
  | .str s => s
  | _ => ""

instance : Ord Json :=
  ⟨compareLex (compareOn rank)
    (compareLex (compareOn reach) (compareLex (compareOn magnitude) (compareOn textOf)))⟩

instance : Std.TransOrd Json :=
  inferInstanceAs (Std.TransCmp (compareLex (compareOn rank)
    (compareLex (compareOn reach) (compareLex (compareOn magnitude) (compareOn textOf)))))

mutual

/-- Whether two values stand for the same; a truth value counts as one or zero. -/
def same : Json → Json → Bool
  | .arr vs, .arr ws => sameItems vs ws
  | .obj vs, .obj ws => vs.length == ws.length && sameMembers vs ws
  | v, w => v.isScalar && w.isScalar && compare v w == .eq

/-- Whether two lists hold the same values, place by place. -/
def sameItems : List Json → List Json → Bool
  | [], [] => true
  | v :: vs, w :: ws => same v w && sameItems vs ws
  | _, _ => false

/-- Whether each of some members has the same value among others. -/
def sameMembers : List (String × Json) → List (String × Json) → Bool
  | [], _ => true
  | (name, v) :: vs, ws =>
    match ws.lookup name with
    | some w => same v w && sameMembers vs ws
    | none => false

end

example : same (.arr [.int 1, .int 0]) (.arr [.bool true, .bool false]) = true := by decide +kernel

end Json

end DeclSplit
