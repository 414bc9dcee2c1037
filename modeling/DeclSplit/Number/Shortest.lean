/-!
# The shortest decimal of a floating-point number

A double-precision number is written with the fewest significant digits that read back as the same
number, and of the decimals of that length with the one nearest to it.

* `Number.Parts` — a finite number as sign, mantissa and exponent of two;
* `Number.shortest` — its digits and the place of the decimal point;
* `Number.text` — how a number is written: positionally from `0.0001` up to below `10 ^ 16`, else
  with an exponent of at least two digits.
-/

namespace DeclSplit.Number

/-- A finite number `± mantissa * 2 ^ exponent`. -/
structure Parts where
  negative : Bool
  mantissa : Nat
  exponent : Int
  deriving DecidableEq

/-- The parts of a finite number; none for an infinity or what is not a number. -/
def parts? (x : Float) : Option Parts :=
  let bits := x.toBits.toNat
  let negative := bits / Nat.pow 2 63 == 1
  let biased : Nat := bits / Nat.pow 2 52 % Nat.pow 2 11
  let fraction : Nat := bits % Nat.pow 2 52
  if biased = Nat.pow 2 11 - 1 then none
  else if biased = 0 then some ⟨negative, fraction, -1074⟩
  else some ⟨negative, fraction + Nat.pow 2 52, (biased : Int) - 1075⟩

/-- The number in units of the least positive one, `2 ^ -1074`. -/
def Parts.units (p : Parts) : Int :=
  let n := p.mantissa * Nat.pow 2 (p.exponent + 1074).toNat
  if p.negative then -n else n

/-- A non-negative fraction that is compared without being reduced. -/
structure Fraction where
  num : Nat
  den : Nat

/-- `n * base ^ e`. -/
def Fraction.scaled (n base : Nat) (e : Int) : Fraction :=
  if 0 ≤ e then ⟨n * Nat.pow base e.toNat, 1⟩ else ⟨n, Nat.pow base (-e).toNat⟩

/-- Whether one fraction is below another. -/
def Fraction.lt (x y : Fraction) : Bool :=
  x.num * y.den < y.num * x.den

/-- The numbers that read back as a given one: those between the midpoints to its neighbours, and
the midpoints too where the mantissa is even. -/
structure Interval where
  low : Fraction
  high : Fraction
  closed : Bool

/-- Whether a fraction lies in an interval. -/
def Interval.contains (i : Interval) (x : Fraction) : Bool :=
  if i.closed then !x.lt i.low && !i.high.lt x else i.low.lt x && x.lt i.high

/-- The numbers that read back as `mantissa * 2 ^ exponent`.  Below a power of two the neighbour is
only half as far away. -/
def Parts.interval (p : Parts) : Interval :=
  let below := if p.mantissa = Nat.pow 2 52 ∧ -1074 < p.exponent then 1 else 2
  { low := .scaled (4 * p.mantissa - below) 2 (p.exponent - 2)
    high := .scaled (4 * p.mantissa + 2) 2 (p.exponent - 2)
    closed := p.mantissa % 2 == 0 }

/-- The least `e` with `x < 10 ^ e`, searched downwards from `e + steps`. -/
def decimalExponent (x : Fraction) (e : Int) : Nat → Int
  | 0 => e
  | steps + 1 =>
    if x.lt (.scaled 1 10 (e + steps)) then decimalExponent x e steps else e + steps + 1

/-- Of the two neighbours of `x` among the multiples of `10 ^ e`, the one that lies in the interval,
the nearer one if both do, the even one if both are equally near. -/
def nearestMultiple? (i : Interval) (x : Fraction) (e : Int) : Option Nat :=
  let unit := Fraction.scaled 1 10 e
  let d := x.num * unit.den / (x.den * unit.num)
  let lower := i.contains (.scaled d 10 e)
  let upper := i.contains (.scaled (d + 1) 10 e)
  let twice := 2 * (x.num * unit.den)
  let middle := (2 * d + 1) * (x.den * unit.num)
  match lower, upper with
  | true, true =>
    if twice < middle then some d
    else if middle < twice then some (d + 1)
    else some (if d % 2 = 0 then d else d + 1)
  | true, false => some d
  | false, true => some (d + 1)
  | false, false => none

/-- Digits `d` and exponent `e` of the first grid `10 ^ e` that has a decimal in the interval, for
the grids of `count` digits and more. -/
def firstGrid (i : Interval) (x : Fraction) (top : Int) (count : Nat) : Nat → Nat × Int
  | 0 => (0, 0)
  | steps + 1 =>
    match nearestMultiple? i x (top - count) with
    | some d => (d, top - count)
    | none => firstGrid i x top (count + 1) steps

/-- The shortest decimal `d * 10 ^ e` that reads back as a positive number. -/
def shortest (p : Parts) : Nat × Int :=
  let x := Fraction.scaled p.mantissa 2 p.exponent
  firstGrid p.interval x (decimalExponent x (-330) 650) 1 17

/-- Digits without trailing zeros. -/
def stripZeros (digits : List Char) : List Char :=
  (digits.reverse.dropWhile (· == '0')).reverse

/-- An exponent with its sign and at least two digits. -/
def exponentText (e : Int) : List Char :=
  let digits := Nat.toDigits 10 e.natAbs
  (if e < 0 then '-' else '+') :: (if digits.length < 2 then '0' :: digits else digits)

/-- Significant digits with the decimal point after the first `point` of them. -/
def layout (digits : List Char) (point : Int) : List Char :=
  if -4 < point ∧ point ≤ 16 then
    if point ≤ 0 then
      '0' :: '.' :: List.replicate (-point).toNat '0' ++ digits
    else
      let whole := point.toNat
      let padded := digits ++ List.replicate (whole - digits.length) '0'
      let tail := padded.drop whole
      padded.take whole ++ '.' :: (if tail.isEmpty then ['0'] else tail)
  else
    match digits with
    | [] => []
    | [d] => d :: 'e' :: exponentText (point - 1)
    | d :: rest => d :: '.' :: rest ++ 'e' :: exponentText (point - 1)

/-- How a floating-point number is written. -/
def text (x : Float) : String :=
  match parts? x with
  | none => if x.isNaN then "nan" else if x < 0 then "-inf" else "inf"
  | some p =>
    let sign := if p.negative then ['-'] else []
    if p.mantissa = 0 then .ofList (sign ++ ['0', '.', '0'])
    else
      let (d, e) := shortest p
      let digits := Nat.toDigits 10 d
      .ofList (sign ++ layout (stripZeros digits) (digits.length + e))

end DeclSplit.Number
