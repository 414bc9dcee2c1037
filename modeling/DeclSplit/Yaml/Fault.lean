import DeclSplit.Text.Quoted
import DeclSplit.Text.Utf8

/-!
# Faults of YAML documents

* `Yaml.Fault` — why a text has no value;
* `Yaml.Fault.message` — the wording, for faults that have one.
-/

namespace DeclSplit.Yaml

/-- A part of a date or a time that is out of its range. -/
inductive Calendar where
  | year (number : Nat)
  | month
  | day
  | hour
  | minute
  | second
  /-- The distance from universal time is a day or more; it is given in minutes. -/
  | zone (minutes : Int)
  deriving DecidableEq, Repr

/-- Why a text has no value. -/
inductive Fault where
  /-- The text is not a well-formed document of one value of known types. -/
  | malformed
  /-- The text ends where it cannot end. -/
  | unfinished
  /-- What follows in the text is not well-formed UTF-8. -/
  | undecodable (fault : Text.Utf8.Fault)
  /-- The collections of the text are nested too deep, or one stands for itself. -/
  | tooDeep
  /-- An escape names a character that there is not; `huge` numbers are no numbers of characters at
  all. -/
  | noSuchCharacter (huge : Bool)
  /-- A date or a time is not on the calendar. -/
  | calendar (part : Calendar)
  /-- A scalar is marked as a truth value and is none. -/
  | notABool (text : String)
  /-- A scalar is marked as a date and is none. -/
  | notATimestamp
  /-- A mapping that stands for a scalar is marked as a date. -/
  | notAText
  /-- A scalar is marked as a number and is empty. -/
  | emptyNumber
  /-- A scalar is marked as a whole number and is none. -/
  | notAnInt (base : Nat) (text : String)
  /-- A scalar is marked as a number and is none. -/
  | notAFloat (text : String)
  /-- A number in base sixty has a place with too large a weight. -/
  | tooLarge
  /-- A whole number has too many digits. -/
  | tooManyDigits (count : Nat)
  deriving DecidableEq, Repr

/-- How a length of time is shown: whole days and the seconds beyond them. -/
def showMinutes (minutes : Int) : String :=
  let days := minutes.fdiv 1440
  let seconds := minutes.fmod 1440 * 60
  let parts := (if days = 0 then [] else [s!"days={days}"]) ++
    (if seconds = 0 then [] else [s!"seconds={seconds}"])
  "datetime.timedelta(" ++ ", ".intercalate parts ++ ")"

/-- The wording for a part that is out of its range. -/
def Calendar.message : Calendar → String
  | .year number => s!"year {number} is out of range"
  | .month => "month must be in 1..12"
  | .day => "day is out of range for month"
  | .hour => "hour must be in 0..23"
  | .minute => "minute must be in 0..59"
  | .second => "second must be in 0..59"
  | .zone minutes =>
    "offset must be a timedelta strictly between -timedelta(hours=24) and timedelta(hours=24), not " ++
      showMinutes minutes ++ "."

/-- The number of characters of a quoted text that the message on a whole number shows at most. -/
def shownLength : Nat := 200

/-- The wording of a fault; a malformed document has none of its own. -/
def Fault.message : Fault → String
  | .malformed | .unfinished => ""
  | .undecodable fault => fault.message
  | .tooDeep => "maximum recursion depth exceeded"
  | .noSuchCharacter huge =>
    if huge then "Python int too large to convert to C int" else "chr() arg not in range(0x110000)"
  | .calendar part => part.message
  | .notABool text => Text.quoted text
  | .notATimestamp => "'NoneType' object has no attribute 'groupdict'"
  | .notAText => "expected string or bytes-like object"
  | .emptyNumber => "string index out of range"
  | .notAnInt base text =>
    s!"invalid literal for int() with base {base}: " ++
      .ofList ((Text.quoted text).toList.take shownLength)
  | .notAFloat text => s!"could not convert string to float: {Text.quoted text}"
  | .tooLarge => "int too large to convert to float"
  | .tooManyDigits count =>
    s!"Exceeds the limit (4300 digits) for integer string conversion: value has {count} digits; " ++
      "use sys.set_int_max_str_digits() to increase the limit"

end DeclSplit.Yaml
