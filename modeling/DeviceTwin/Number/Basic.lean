/-
The numbers that a message can hold.

A number is an integer or a floating-point number, and the two never
mix: 1 and 1.0 are different values and are written differently.
Integers reach from -2^63 up to 2^64 - 1, the union of what signed and
unsigned 64-bit words hold. Floating-point numbers are the finite 64-bit
ones. They are kept as their bit pattern, so equality of numbers is
decidable and structural; `Double.agrees` is the coarser comparison that
does not see the sign of a zero.
-/

namespace DeviceTwin

-- ================================================================= integers

/-- An integer from -2^63 up to 2^64 - 1. -/
structure Integer where
  val : Int
  lower : -9223372036854775808 ≤ val
  upper : val < 18446744073709551616
  deriving DecidableEq

namespace Integer

/-- The integer, if it is in range. -/
def ofInt? (n : Int) : Option Integer :=
  if h : -9223372036854775808 ≤ n ∧ n < 18446744073709551616 then some ⟨n, h.1, h.2⟩ else none

/-- A natural number below 2^64. -/
def ofNat (n : Nat) (h : n < 18446744073709551616) : Integer := ⟨n, by omega, by omega⟩

/-- A 64-bit signed word. -/
def ofInt64 (n : Int64) : Integer :=
  ⟨n.toInt, n.le_toInt, by have := n.toInt_lt; omega⟩

/-- A 16-bit unsigned word. -/
def ofUInt16 (n : UInt16) : Integer := ofNat n.toNat (by have := n.toNat_lt; omega)

/-- The signed 64-bit word of this value, if there is one. -/
def toInt64? (n : Integer) : Option Int64 :=
  if n.val < 9223372036854775808 then some (Int64.ofInt n.val) else none

/-- The unsigned 16-bit word of this value, if there is one. -/
def toUInt16? (n : Integer) : Option UInt16 :=
  if 0 ≤ n.val ∧ n.val < 65536 then some (UInt16.ofNat n.val.toNat) else none

@[simp] theorem ofInt?_val (n : Integer) : ofInt? n.val = some n :=
  dif_pos ⟨n.lower, n.upper⟩

@[simp] theorem toInt64?_ofInt64 (n : Int64) : (ofInt64 n).toInt64? = some n := by
  have h : n.toInt < 9223372036854775808 := n.toInt_lt
  simp only [toInt64?, ofInt64, if_pos h, Int64.ofInt_toInt]

@[simp] theorem toUInt16?_ofUInt16 (n : UInt16) : (ofUInt16 n).toUInt16? = some n := by
  have h : 0 ≤ (n.toNat : Int) ∧ (n.toNat : Int) < 65536 := by
    have := n.toNat_lt
    omega
  simp only [toUInt16?, ofUInt16, ofNat, if_pos h, Int.toNat_natCast, UInt16.ofNat_toNat]

end Integer

-- ============================================================ floating point

/-- The bits of a 64-bit floating-point number that hold its exponent. -/
def exponentMask : UInt64 := 0x7FF0000000000000

/-- A finite 64-bit floating-point number: its bit pattern, whose exponent
is not the one set aside for infinities and not-a-numbers. -/
structure Double where
  bits : UInt64
  finite : bits &&& exponentMask ≠ exponentMask
  deriving DecidableEq

namespace Double

/-- The number with these bits, if it is finite. -/
def ofBits? (bits : UInt64) : Option Double :=
  if h : bits &&& exponentMask ≠ exponentMask then some ⟨bits, h⟩ else none

/-- A machine number, if it is finite. -/
def ofFloat? (x : Float) : Option Double := ofBits? x.toBits

/-- The sign bit. -/
def isNegative (x : Double) : Bool := x.bits >>> 63 == 1

/-- The exponent field. -/
def exponentField (x : Double) : Nat := ((x.bits >>> 52) &&& 0x7FF).toNat

/-- The fraction field. -/
def fractionField (x : Double) : Nat := (x.bits &&& 0xFFFFFFFFFFFFF).toNat

/-- Zero of either sign. -/
def isZero (x : Double) : Bool := x.bits <<< 1 == 0

/-- The same number, whatever the sign of a zero. -/
def agrees (x y : Double) : Bool := x.bits == y.bits || (x.isZero && y.isZero)

/-- Zero with a minus sign. -/
def negativeZero : Double := ⟨0x8000000000000000, by decide⟩

@[simp] theorem ofBits?_bits (x : Double) : ofBits? x.bits = some x := by
  simp [ofBits?, x.finite]

end Double

end DeviceTwin
