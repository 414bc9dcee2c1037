import DeclSplit.Text.Decimal
import DeclSplit.Text.Hex

/-!
# Numbers in texts

The numbers that a text can hold on its own, with blanks around it and digits of any script.

* `Number.readInt` — a whole number in a given base;
* `Number.readFloat?` — a floating-point number.
-/

namespace DeclSplit.Number

/-- Why a text is no whole number. -/
inductive IntFault where
  /-- It does not have the form of one. -/
  | badForm
  /-- It has too many decimal digits. -/
  | tooManyDigits (count : Nat)
  deriving DecidableEq, Repr

/-- The largest number of decimal digits of a whole number. -/
def maxDigits : Nat := 4300

/-- A sign, if there is one, and the characters after it. -/
def splitSign : List Char → Bool × List Char
  | '-' :: rest => (true, rest)
  | '+' :: rest => (false, rest)
  | cs => (false, cs)

/-- The letter that may stand after a zero in front of a number in the given base. -/
def baseLetter? (base : Nat) : Option Char :=
  [(2, 'b'), (8, 'o'), (16, 'x')].lookup base

/-- The digits after a sign in a given base, without the mark for the base. -/
def withoutBaseMark (base : Nat) : List Char → List Char
  | '0' :: letter :: rest =>
    if baseLetter? base = some letter.toLower then rest else '0' :: letter :: rest
  | cs => cs

/-- The value of a digit in a base up to sixteen. -/
def digitIn? (base : Nat) (c : Char) : Option Nat :=
  (Text.hexValue? c).filter (· < base)

/-- The number that digits stand for; what is no digit counts as zero. -/
def digitsValue (base : Nat) (digits : List Char) : Nat :=
  digits.foldl (fun n c => base * n + (digitIn? base c).getD 0) 0

/-- A whole number in base two, eight, ten or sixteen. -/
def readInt (base : Nat) (text : List Char) : Except IntFault Int :=
  let (negative, cs) := splitSign (Text.numeral text)
  let cs := withoutBaseMark base cs
  let isDigit (c : Char) : Bool := (digitIn? base c).isSome
  let digits := cs.takeWhile isDigit
  if base = 10 ∧ maxDigits < digits.length then .error (.tooManyDigits digits.length)
  else if digits.isEmpty || !(cs.dropWhile isDigit).isEmpty then .error .badForm
  else
    let n : Int := digitsValue base digits
    .ok (if negative then -n else n)

/-- The number `mantissa * 10 ^ exponent`, rounded. -/
def scientific (mantissa : Nat) (exponent : Int) : Float :=
  let exponent := max (-100000) (min 100000 exponent)
  Float.ofScientific mantissa (exponent < 0) exponent.natAbs

/-- The exponent of ten at the end of a number; it is zero if there is none. -/
def exponent? : List Char → Option Int
  | [] => some 0
  | c :: rest =>
    if c.toLower = 'e' then
      let (negative, digits) := splitSign rest
      if digits.isEmpty || !digits.all Char.isDigit then none
      else
        let n : Int := digitsValue 10 digits
        some (if negative then -n else n)
    else none

/-- A number in digits, with a point and an exponent if they are given. -/
def decimal? (cs : List Char) : Option Float :=
  let whole := cs.takeWhile Char.isDigit
  let rest := cs.dropWhile Char.isDigit
  let (places, rest) :=
    match rest with
    | '.' :: rest => (rest.takeWhile Char.isDigit, rest.dropWhile Char.isDigit)
    | rest => ([], rest)
  if whole.isEmpty && places.isEmpty then none
  else
    (exponent? rest).map fun exponent =>
      scientific (digitsValue 10 (whole ++ places)) (exponent - places.length)

/-- The infinite number. -/
def infinity : Float := 1.0 / 0.0

/-- What is not a number. -/
def notANumber : Float := 0.0 / 0.0

/-- A floating-point number. -/
def readFloat? (text : List Char) : Option Float :=
  let (negative, cs) := splitSign (Text.numeral text)
  let word := String.ofList (cs.map Char.toLower)
  let size :=
    if word = "inf" ∨ word = "infinity" then some infinity
    else if word = "nan" then some notANumber
    else decimal? cs
  size.map fun x => if negative then -x else x

example : readInt 10 [' ', '-', '1', '2'] = .ok (-12) := rfl

example : readInt 2 ['2'] = .error .badForm := rfl

end DeclSplit.Number
