/-
The number that a decimal literal denotes.

A literal is a sign, whole digits, fraction digits and an exponent. A
literal of whole digits only is an integer if it is in range, save that
minus zero is the floating-point zero with that sign. All others are
floating-point numbers, and so are whole literals out of range. Their
value is computed in the machine's arithmetic and not to the last bit:
the leading digits that fit an unsigned 64-bit word form a significand,
which is converted, and then multiplied by or divided by a power of ten.
A literal too large for that denotes nothing; one too small denotes
zero.
-/
import DeviceTwin.Number.Basic

namespace DeviceTwin

/-- A decimal literal, digit by digit. -/
structure Literal where
  negative : Bool
  whole : List Char
  fraction : List Char
  exponent : Int
  isWhole : Bool

/-- A number as a literal denotes it. -/
inductive Number where
  | int (n : Integer)
  | float (x : Double)
  deriving DecidableEq

namespace Literal

/-- The value of a decimal digit. -/
def digitValue (c : Char) : Nat := c.toNat - '0'.toNat

/-- Appends digits to a significand as long as it stays a 64-bit word;
also how many digits did not fit. -/
def accumulate (significand : Nat) : List Char → Nat × Nat
  | [] => (significand, 0)
  | c :: cs =>
      let next := 10 * significand + digitValue c
      if next < 18446744073709551616 then accumulate next cs else (significand, cs.length + 1)

/-- The power of ten as a machine number, for exponents up to 308. -/
def tenTo (n : Nat) : Float := Float.ofScientific 1 false n

/-- A machine number times a power of ten; none if the power is positive
and out of the range of machine numbers. -/
def timesTenTo (x : Float) (exponent : Int) : Option Float :=
  if exponent.natAbs ≤ 308 then
    if 0 ≤ exponent then some (x * tenTo exponent.natAbs) else some (x / tenTo exponent.natAbs)
  else if x == 0 then some x
  else if 0 ≤ exponent then none
  else timesTenTo (x / tenTo 308) (exponent + 308)
  termination_by exponent.natAbs
  decreasing_by omega

/-- The literal as a floating-point number, if it is finite. -/
def float? (l : Literal) : Option Double :=
  let (wholePart, wholeLeft) := accumulate 0 l.whole
  let (significand, fractionLeft) := accumulate wholePart l.fraction
  let exponent := l.exponent + wholeLeft - (l.fraction.length - fractionLeft : Nat)
  match timesTenTo (UInt64.ofNat significand).toFloat exponent with
  | none => none
  | some x => Double.ofFloat? (if l.negative then -x else x)

/-- The integer of a literal of whole digits, minus zero excepted. -/
def integer? (l : Literal) : Option Integer :=
  let magnitude := Nat.ofDigitChars 10 l.whole 0
  if l.negative then
    if magnitude = 0 then none else if magnitude ≤ 9223372036854775808 then Integer.ofInt? (-magnitude) else none
  else Integer.ofInt? magnitude

/-- What the literal denotes. -/
def value? (l : Literal) : Option Number :=
  match if l.isWhole then l.integer? else none with
  | some n => some (.int n)
  | none => l.float?.map .float

end Literal

end DeviceTwin
