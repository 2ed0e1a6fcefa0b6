/-
The decimal text of a floating-point number.

The digits are the fewest that read back as the same number, and of
those the nearest to it. A positive double is m · 2^q for whole m and q;
the reals that round to it form an interval around it, whose ends belong
to it exactly when m is even. For one digit, two digits and so on the
two neighbours of the number on the decimal grid of that many digits are
tried in exact arithmetic; a grid with a point in the interval has one
of these two in it, and seventeen digits always suffice. The notation is
that of the format: positional for magnitudes from 10^-5 to below 10^16,
otherwise one digit before the point and a signed exponent; a point or
an exponent always shows that the number is no integer.
-/
import DeviceTwin.Number.Basic

namespace DeviceTwin

-- ================================================================== the value

/-- The numbers that round to a double, with the double itself: all three
bounds over one denominator. -/
structure RoundingInterval where
  low : Nat
  value : Nat
  high : Nat
  den : Nat
  closed : Bool

/-- m · 2^q for the magnitude of a number. -/
def Double.mantissa (x : Double) : Nat × Int :=
  if x.exponentField = 0 then (x.fractionField, -1074)
  else (x.fractionField + 0x10000000000000, (x.exponentField : Int) - 1075)

/-- The interval of a number's magnitude. Below a power of two the
neighbours are half as far away as above it. -/
def Double.interval (x : Double) : RoundingInterval :=
  let (m, q) := x.mantissa
  let lowGap := if x.fractionField = 0 ∧ 1 < x.exponentField then 1 else 2
  let scale := Nat.pow 2 (q - 2).toNat
  { low := (4 * m - lowGap) * scale
    value := 4 * m * scale
    high := (4 * m + 2) * scale
    den := Nat.pow 2 (2 - q).toNat
    closed := m % 2 = 0 }

-- ================================================================= the digits

/-- The exponent e with 10^e ≤ num / den < 10^(e + 1). -/
def decimalExponent (num den : Nat) : Int :=
  if den ≤ num then ((Nat.toDigits 10 (num / den)).length : Int) - 1
  else -((Nat.toDigits 10 ((den + num - 1) / num - 1)).length : Int)

/-- The points of the grid of multiples of 10^k that lie beside the value
and inside the interval, the nearer first and of two equally near ones
the even one. -/
def RoundingInterval.neighbour? (i : RoundingInterval) (k : Int) : Option Nat :=
  let num := i.value * Nat.pow 10 (-k).toNat
  let den := i.den * Nat.pow 10 k.toNat
  let below := num / den
  let inside := fun (d : Nat) =>
    let point := d * den
    let low := i.low * Nat.pow 10 (-k).toNat
    let high := i.high * Nat.pow 10 (-k).toNat
    if i.closed then low ≤ point && point ≤ high else low < point && point < high
  let rest := 2 * (num % den)
  let preferBelow := rest < den || (rest == den && below % 2 == 0)
  let (first, second) := if preferBelow then (below, below + 1) else (below + 1, below)
  if inside first then some first else if inside second then some second else none

/-- The digits of a number and the power of ten of its last digit: the
first of the grids with `count`, `count + 1`, … digits that has a point
in the interval. -/
def RoundingInterval.shortestFrom (i : RoundingInterval) (exponent : Int) :
    (tries count : Nat) → Nat × Int
  | 0, count => (i.value / i.den, exponent - count)
  | tries + 1, count =>
      let k := exponent - count + 1
      match i.neighbour? k with
      | some d => (d, k)
      | none => i.shortestFrom exponent tries (count + 1)

/-- The shortest digits of a number that is not zero, with the power of
ten of the last digit. -/
def Double.shortest (x : Double) : Nat × Int :=
  let i := x.interval
  i.shortestFrom (decimalExponent i.value i.den) 17 1

-- =============================================================== the notation

/-- Digits with zeros at the end taken off. -/
def significantDigits (d : Nat) : List Char :=
  ((Nat.toDigits 10 d).reverse.dropWhile (· == '0')).reverse

/-- The text of the digits of a magnitude whose first digit stands for
10^exponent. -/
def notate (digits : List Char) (exponent : Int) : List Char :=
  if 0 ≤ exponent ∧ exponent < 16 then
    let whole := exponent.toNat + 1
    let padded := digits ++ List.replicate (whole - digits.length) '0'
    let fraction := padded.drop whole
    padded.take whole ++ '.' :: (if fraction.isEmpty then ['0'] else fraction)
  else if -5 ≤ exponent ∧ exponent < 0 then
    '0' :: '.' :: List.replicate (-exponent - 1).toNat '0' ++ digits
  else
    let mark := if exponent < 0 then ['e', '-'] else ['e', '+']
    let tail := mark ++ Nat.toDigits 10 exponent.natAbs
    match digits with
    | [] => tail
    | [d] => d :: tail
    | d :: ds => d :: '.' :: ds ++ tail

/-- The decimal text of a number. -/
def Double.text (x : Double) : List Char :=
  let sign := if x.isNegative then ['-'] else []
  if x.isZero then sign ++ ['0', '.', '0']
  else
    let (d, k) := x.shortest
    let exponent := k + (Nat.toDigits 10 d).length - 1
    sign ++ notate (significantDigits d) exponent

/-- The decimal text of an integer. -/
def Integer.text (n : Integer) : List Char :=
  if n.val < 0 then '-' :: Nat.toDigits 10 n.val.natAbs else Nat.toDigits 10 n.val.natAbs

end DeviceTwin
