import DeclSplit.Proofs.Attempts
import DeclSplit.Yaml.Scalar

/-!
# Scalars without a value

Each kind of scalar has faults of its own.

* `Yaml.Tag.Refuses` — the faults of the texts with a tag;
* `Yaml.scalarValue_failsWith` — a text with a tag has no others.
-/

namespace DeclSplit.Yaml

/-- The faults of the texts with a tag.  Texts whose tag is for no scalar are malformed, and so are bytes
that are not in base 64. -/
def Tag.Refuses : Tag → Fault → Prop
  | .bool, .notABool _ => True
  | .int, .emptyNumber | .int, .notAnInt .. | .int, .tooManyDigits _ => True
  | .float, .emptyNumber | .float, .notAFloat _ | .float, .tooLarge => True
  | .timestamp, .notATimestamp | .timestamp, .calendar _ => True
  | .null, _ | .bool, _ | .int, _ | .float, _ | .timestamp, _ | .str, _ => False
  | _, fault => fault = .malformed

/-! ### Truth values and numbers -/

theorem boolValue_failsWith (text : List Char) : FailsWith Tag.bool.Refuses (boolValue text) := by
  rw [boolValue]
  split
  next => trivial
  next => split <;> trivial

theorem wholeNumber_failsWith (base : Nat) (text : List Char) :
    FailsWith Tag.int.Refuses (wholeNumber base text) := by
  rw [wholeNumber]
  split <;> trivial

theorem unsignedInt_failsWith (text : List Char) :
    FailsWith Tag.int.Refuses (unsignedInt text) := by
  rw [unsignedInt.eq_def]
  split
  next => trivial
  next => trivial
  next => exact wholeNumber_failsWith ..
  next => exact wholeNumber_failsWith ..
  next => exact wholeNumber_failsWith ..
  next =>
    split
    next => exact (FailsWith.mapM (wholeNumber_failsWith 10) _).bind fun _ => trivial
    next => exact wholeNumber_failsWith ..

theorem intValue_failsWith (text : List Char) : FailsWith Tag.int.Refuses (intValue text) := by
  rw [intValue]
  split
  next => trivial
  next => exact (unsignedInt_failsWith _).bind fun _ => trivial

theorem floatNumber_failsWith (text : List Char) :
    FailsWith Tag.float.Refuses (floatNumber text) := by
  rw [floatNumber]
  split <;> trivial

theorem sexagesimalValue_failsWith (places : List Float) :
    FailsWith Tag.float.Refuses (sexagesimalValue places) := by
  rw [sexagesimalValue]
  refine FailsWith.bind (FailsWith.foldlM (fun sum place => ?_) places _) fun _ => trivial
  dsimp only
  split <;> trivial

theorem unsignedFloat_failsWith (text : List Char) :
    FailsWith Tag.float.Refuses (unsignedFloat text) := by
  rw [unsignedFloat]
  split
  next => trivial
  split
  next => trivial
  split
  next =>
    exact (FailsWith.mapM floatNumber_failsWith _).bind fun _ => sexagesimalValue_failsWith _
  next => exact floatNumber_failsWith text

theorem floatValue_failsWith (text : List Char) : FailsWith Tag.float.Refuses (floatValue text) := by
  rw [floatValue]
  split
  next => trivial
  next => exact (unsignedFloat_failsWith _).bind fun _ => trivial

/-! ### Bytes, dates and times -/

theorem binaryValue_failsWith (text : List Char) :
    FailsWith Tag.binary.Refuses (binaryValue text) := by
  rw [binaryValue]
  split
  next => rfl
  next => split <;> trivial

theorem checkCalendar_failsWith (part : Calendar) (ok : Bool) :
    FailsWith Tag.timestamp.Refuses (checkCalendar part ok) := by
  rw [checkCalendar]
  split <;> trivial

theorem checkDate_failsWith (year month day : Nat) :
    FailsWith Tag.timestamp.Refuses (checkDate year month day) :=
  (checkCalendar_failsWith ..).bind fun _ =>
    (checkCalendar_failsWith ..).bind fun _ => checkCalendar_failsWith ..

theorem checkTime_failsWith (hour minute second : Nat) :
    FailsWith Tag.timestamp.Refuses (checkTime hour minute second) :=
  (checkCalendar_failsWith ..).bind fun _ =>
    (checkCalendar_failsWith ..).bind fun _ => checkCalendar_failsWith ..

theorem checkZone_failsWith (text : List Char) :
    FailsWith Tag.timestamp.Refuses (checkZone text) := by
  rw [checkZone]
  split
  next => trivial
  next => exact checkCalendar_failsWith ..

theorem timestampValue_failsWith (text : List Char) :
    FailsWith Tag.timestamp.Refuses (timestampValue text) := by
  rw [timestampValue]
  dsimp only
  split
  next => trivial
  split
  next => exact (checkDate_failsWith ..).bind fun _ => trivial
  next =>
    exact (checkZone_failsWith _).bind fun _ => (checkDate_failsWith ..).bind fun _ =>
      (checkTime_failsWith ..).bind fun _ => trivial

/-- A text with a tag has no faults but those of the tag. -/
theorem scalarValue_failsWith (tag : Tag) (text : List Char) :
    FailsWith tag.Refuses (scalarValue tag text) := by
  cases tag with
  | bool => exact boolValue_failsWith text
  | int => exact intValue_failsWith text
  | float => exact floatValue_failsWith text
  | binary => exact binaryValue_failsWith text
  | timestamp => exact timestampValue_failsWith text
  | null | str => trivial
  | seq | orderedMap | pairs | set | map | merge | value | unknown => exact rfl

end DeclSplit.Yaml
