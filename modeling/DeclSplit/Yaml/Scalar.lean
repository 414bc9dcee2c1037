import DeclSplit.Number.Literal
import DeclSplit.Text.Base64
import DeclSplit.Text.Case
import DeclSplit.Text.Split
import DeclSplit.Yaml.Fault
import DeclSplit.Yaml.Tag
import DeclSplit.Yaml.Value

/-!
# The values of scalars

* `Yaml.boolValue`, `Yaml.intValue`, `Yaml.floatValue`, `Yaml.binaryValue` and
  `Yaml.timestampValue` — the value of a text of that kind, or why there is none;
* `Yaml.scalarValue` — the value of a text with a tag.
-/

namespace DeclSplit.Yaml

/-- A text without its underscores. -/
def withoutUnderscores (text : List Char) : List Char :=
  text.filter (· != '_')

/-- A truth value, in any letter case. -/
def boolValue (text : List Char) : Except Fault Value :=
  let word := String.ofList (Text.lowerAfter [] text)
  if word = "yes" ∨ word = "true" ∨ word = "on" then .ok (.bool true)
  else if word = "no" ∨ word = "false" ∨ word = "off" then .ok (.bool false)
  else .error (.notABool word)

/-! ### Numbers -/

/-- A whole number in a given base. -/
def wholeNumber (base : Nat) (text : List Char) : Except Fault Int :=
  match Number.readInt base text with
  | .ok n => .ok n
  | .error .badForm => .error (.notAnInt base (.ofList text))
  | .error (.tooManyDigits count) => .error (.tooManyDigits count)

/-- A whole number without a sign: its first characters give the base, and colons separate the digits
of a number in base sixty. -/
def unsignedInt (text : List Char) : Except Fault Int :=
  match text with
  | [] => .error .emptyNumber
  | ['0'] => .ok 0
  | '0' :: 'b' :: digits => wholeNumber 2 digits
  | '0' :: 'x' :: digits => wholeNumber 16 digits
  | '0' :: _ => wholeNumber 8 text
  | _ =>
    if text.contains ':' then do
      let places ← (Text.splitOn ':' text).mapM (wholeNumber 10)
      return places.foldl (fun n place => 60 * n + place) 0
    else wholeNumber 10 text

/-- A whole number. -/
def intValue (text : List Char) : Except Fault Value :=
  match withoutUnderscores text with
  | [] => .error .emptyNumber
  | text => do
    let (negative, text) := Number.splitSign text
    let n ← unsignedInt text
    return .int (if negative then -n else n)

/-- A floating-point number as part of a scalar. -/
def floatNumber (text : List Char) : Except Fault Float :=
  match Number.readFloat? text with
  | some x => .ok x
  | none => .error (.notAFloat (.ofList text))

/-- The number whose places in base sixty are given, least significant first.  No weight may be too
large for a floating-point number. -/
def sexagesimalValue (places : List Float) : Except Fault Float := do
  let (sum, _) ← places.foldlM (fun ((sum : Float), (weight : Nat)) place => do
    if weight.toFloat.isInf then throw .tooLarge
    return (sum + place * weight.toFloat, 60 * weight)) ((0.0 : Float), 1)
  return sum

/-- A floating-point number without a sign. -/
def unsignedFloat (text : List Char) : Except Fault Float :=
  if text = ['.', 'i', 'n', 'f'] then .ok Number.infinity
  else if text = ['.', 'n', 'a', 'n'] then .ok Number.notANumber
  else if text.contains ':' then do
    let places ← (Text.splitOn ':' text).mapM floatNumber
    sexagesimalValue places.reverse
  else floatNumber text

/-- A floating-point number. -/
def floatValue (text : List Char) : Except Fault Value :=
  match Text.lowerAfter [] (withoutUnderscores text) with
  | [] => .error .emptyNumber
  | text => do
    let (negative, text) := Number.splitSign text
    let x ← unsignedFloat text
    return .float (if negative then -x else x)

/-! ### Bytes -/

/-- Bytes in base 64. -/
def binaryValue (text : List Char) : Except Fault Value :=
  if text.any fun c => 128 ≤ c.toNat then .error .malformed
  else
    match Text.Base64.decode text with
    | some contents => .ok (.bytes contents)
    | none => .error .malformed

/-! ### Dates and times -/

/-- Dates and times, in which a date alone may have one digit for the month or the day too. -/
def timestampPattern : Text.Pattern :=
  .seq Tag.shortDate (.optional (.seq Tag.dateTimeSeparator Tag.timePattern))

/-- The number at the start of a text and what is after it. -/
def takeNumber (text : List Char) : Nat × List Char :=
  (Number.digitsValue 10 (text.takeWhile Char.isDigit), text.dropWhile Char.isDigit)

/-- The next number in a text and what is after it. -/
def nextNumber (text : List Char) : Nat × List Char :=
  takeNumber (text.dropWhile fun c => !c.isDigit)

/-- The number of days of a month. -/
def daysInMonth (year month : Nat) : Nat :=
  if month = 2 then
    if year % 4 = 0 ∧ (year % 100 ≠ 0 ∨ year % 400 = 0) then 29 else 28
  else if month ∈ [4, 6, 9, 11] then 30
  else 31

/-- Checks a part of a date or time. -/
def checkCalendar (part : Calendar) (ok : Bool) : Except Fault Unit :=
  if ok then .ok () else .error (.calendar part)

/-- Checks that a date is on the calendar. -/
def checkDate (year month day : Nat) : Except Fault Unit := do
  checkCalendar (.year year) (1 ≤ year && year ≤ 9999)
  checkCalendar .month (1 ≤ month && month ≤ 12)
  checkCalendar .day (1 ≤ day && day ≤ daysInMonth year month)

/-- Checks that a time is on the clock. -/
def checkTime (hour minute second : Nat) : Except Fault Unit := do
  checkCalendar .hour (hour ≤ 23)
  checkCalendar .minute (minute ≤ 59)
  checkCalendar .second (second ≤ 59)

/-- Checks the distance from universal time at the end of a time, if it is given. -/
def checkZone (text : List Char) : Except Fault Unit :=
  match text.dropWhile fun c => c != '+' && c != '-' with
  | [] => .ok ()
  | sign :: text =>
    let (hours, text) := takeNumber text
    let (minutes, _) := nextNumber text
    let total : Int := hours * 60 + minutes
    let total := if sign = '-' then -total else total
    checkCalendar (.zone total) (-1440 < total && total < 1440)

/-- A date or a time. -/
def timestampValue (text : List Char) : Except Fault Value := do
  let text := Tag.withoutLastBreak text
  if !timestampPattern.accepts text then throw .notATimestamp
  let (year, text) := takeNumber text
  let (month, text) := nextNumber text
  let (day, text) := nextNumber text
  if text.isEmpty then
    checkDate year month day
    return .date year month day
  let (hour, text) := nextNumber text
  let (minute, text) := nextNumber text
  let (second, text) := nextNumber text
  checkZone text
  checkDate year month day
  checkTime hour minute second
  return .datetime year month day hour minute second

/-- The value of a text with a tag. -/
def scalarValue (tag : Tag) (text : List Char) : Except Fault Value :=
  match tag with
  | .null => .ok .null
  | .bool => boolValue text
  | .int => intValue text
  | .float => floatValue text
  | .binary => binaryValue text
  | .timestamp => timestampValue text
  | .str => .ok (.str (.ofList text))
  | .seq | .orderedMap | .pairs | .set | .map | .merge | .value | .unknown => .error .malformed

end DeclSplit.Yaml
