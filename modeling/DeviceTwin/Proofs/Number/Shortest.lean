/-
Seventeen digits are enough.

A grid of seventeen digits has steps of at most 10^-16 of the magnitude that
it starts from, so the point of the grid beside a number is at most half of
that away. The numbers that round to a double reach at least 2^-54 of it to
either side, which is a little more. So the search for the shortest digits
ends on one of the seventeen grids (`isSome_seventeenth`), and since the
interval does not reach down to zero, the digits that it finds are those of
a positive number (`shortest_pos`).
-/
import DeviceTwin.Number.Shortest
import Mathlib.Tactic.Ring

namespace DeviceTwin

-- ============================================================== bits of a double

namespace Double

variable {x : Double}

theorem exponentField_eq (x : Double) :
    x.exponentField = x.bits.toNat / 2 ^ 52 % 2 ^ 11 := by
  have hmask : (0x7FF : UInt64).toNat = 2 ^ 11 - 1 := rfl
  rw [exponentField, UInt64.toNat_and, UInt64.toNat_shiftRight, hmask,
    Nat.and_two_pow_sub_one_eq_mod, Nat.shiftRight_eq_div_pow]
  rfl

theorem fractionField_eq (x : Double) :
    x.fractionField = x.bits.toNat % 2 ^ 52 := by
  have hmask : (0xFFFFFFFFFFFFF : UInt64).toNat = 2 ^ 52 - 1 := rfl
  rw [fractionField, UInt64.toNat_and, hmask, Nat.and_two_pow_sub_one_eq_mod]

theorem isZero_iff (x : Double) :
    x.isZero = true ↔ x.bits.toNat % 2 ^ 63 = 0 := by
  have hshift : (x.bits <<< 1).toNat = x.bits.toNat * 2 % 2 ^ 64 := by
    rw [UInt64.toNat_shiftLeft, Nat.shiftLeft_eq]
    rfl
  rw [isZero, beq_iff_eq, ← UInt64.toNat_inj, hshift]
  show x.bits.toNat * 2 % 2 ^ 64 = 0 ↔ _
  omega

/-- The whole number in front of the power of two has 53 bits and is not
zero. -/
theorem mantissa_pos (h : x.isZero = false) : 0 < x.mantissa.1 := by
  have hbits : ¬ x.bits.toNat % 2 ^ 63 = 0 := by
    rw [← isZero_iff, h]
    exact Bool.false_ne_true
  have hexponent := x.exponentField_eq
  have hfraction := x.fractionField_eq
  unfold mantissa
  split
  · show 0 < x.fractionField
    omega
  · show 0 < x.fractionField + 0x10000000000000
    omega

theorem mantissa_lt (x : Double) : x.mantissa.1 < 2 ^ 53 := by
  have hfraction := x.fractionField_eq
  unfold mantissa
  split
  · show x.fractionField < 2 ^ 53
    omega
  · show x.fractionField + 0x10000000000000 < 2 ^ 53
    omega

/-- Below a power of two it is 2^52. -/
theorem mantissa_of_fraction (hf : x.fractionField = 0) (he : 1 < x.exponentField) :
    x.mantissa.1 = 2 ^ 52 := by
  rw [mantissa, if_neg (by omega), hf]
  rfl

end Double

-- ================================================================ the interval

namespace RoundingInterval

variable {i : RoundingInterval}

/-- An interval that does not reach down to zero, and that reaches to either
side of its value by more than one part in 2 · 10^16. -/
structure Wide (i : RoundingInterval) : Prop where
  den_pos : 0 < i.den
  low_pos : 0 < i.low
  below : i.value + 2 * 10 ^ 16 * i.low < 2 * 10 ^ 16 * i.value
  above : i.value + 2 * 10 ^ 16 * i.value < 2 * 10 ^ 16 * i.high

/-- The value and the step of a grid, both over one denominator. -/
def scaled (i : RoundingInterval) (k : Int) : Nat := i.value * 10 ^ (-k).toNat

def step (i : RoundingInterval) (k : Int) : Nat := i.den * 10 ^ k.toNat

/-- Whether a point of a grid lies in the interval. -/
def holds (i : RoundingInterval) (k : Int) (d : Nat) : Bool :=
  if i.closed then
    i.low * 10 ^ (-k).toNat ≤ d * i.step k && d * i.step k ≤ i.high * 10 ^ (-k).toNat
  else i.low * 10 ^ (-k).toNat < d * i.step k && d * i.step k < i.high * 10 ^ (-k).toNat

/-- The first of two points that lies in the interval. -/
def pick (i : RoundingInterval) (k : Int) (first second : Nat) : Option Nat :=
  if i.holds k first then some first
  else if i.holds k second then some second
  else none

/-- The nearer one of the two neighbours comes first. -/
theorem neighbour?_cases (i : RoundingInterval) (k : Int) :
    (2 * (i.scaled k % i.step k) ≤ i.step k
      ∧ i.neighbour? k = i.pick k (i.scaled k / i.step k) (i.scaled k / i.step k + 1))
    ∨ (i.step k ≤ 2 * (i.scaled k % i.step k)
      ∧ i.neighbour? k
        = i.pick k (i.scaled k / i.step k + 1) (i.scaled k / i.step k)) := by
  have hpick : i.neighbour? k = (fun p : Nat × Nat => i.pick k p.1 p.2)
      (if 2 * (i.scaled k % i.step k) < i.step k
          || (2 * (i.scaled k % i.step k) == i.step k
            && i.scaled k / i.step k % 2 == 0) then
        (i.scaled k / i.step k, i.scaled k / i.step k + 1)
      else (i.scaled k / i.step k + 1, i.scaled k / i.step k)) := rfl
  rw [hpick]
  split
  case isTrue hnear =>
    simp only [Bool.or_eq_true, decide_eq_true_eq, Bool.and_eq_true, beq_iff_eq] at hnear
    exact .inl ⟨by omega, rfl⟩
  case isFalse hfar =>
    simp only [Bool.or_eq_true, decide_eq_true_eq, Bool.and_eq_true, beq_iff_eq, not_or]
      at hfar
    exact .inr ⟨by omega, rfl⟩

theorem holds_of_pick {k : Int} {first second d : Nat}
    (h : i.pick k first second = some d) : i.holds k d = true := by
  unfold pick at h
  split at h
  case isTrue hfirst => exact Option.some.inj h ▸ hfirst
  case isFalse =>
    split at h
    case isTrue hsecond => exact Option.some.inj h ▸ hsecond
    case isFalse => cases h

/-- Digits in an interval above zero are not all zero. -/
theorem Wide.neighbour?_pos (hi : i.Wide) {k : Int} {d : Nat}
    (h : i.neighbour? k = some d) : 0 < d := by
  have hlow : 0 < i.low * 10 ^ (-k).toNat :=
    Nat.mul_pos hi.low_pos (Nat.pow_pos (by decide))
  have hd : i.holds k d = true := by
    rcases i.neighbour?_cases k with ⟨-, heq⟩ | ⟨-, heq⟩
    · exact holds_of_pick (heq ▸ h)
    · exact holds_of_pick (heq ▸ h)
  refine Nat.pos_of_ne_zero ?_
  rintro rfl
  unfold holds at hd
  split at hd
  · simp only [Bool.and_eq_true, decide_eq_true_eq] at hd
    omega
  · simp only [Bool.and_eq_true, decide_eq_true_eq] at hd
    omega

/-- The nearer neighbour lies in the interval if the grid is fine enough. -/
theorem Wide.isSome_neighbour? (hi : i.Wide) {k : Int}
    (hk : 10 ^ 16 * i.step k ≤ i.scaled k) : (i.neighbour? k).isSome = true := by
  have hpow : 0 < 10 ^ (-k).toNat := Nat.pow_pos (by decide)
  have hstep : 0 < i.step k := Nat.mul_pos hi.den_pos (Nat.pow_pos (by decide))
  have hbelow := Nat.mul_lt_mul_of_pos_right hi.below hpow
  have habove := Nat.mul_lt_mul_of_pos_right hi.above hpow
  simp only [Nat.add_mul, Nat.mul_assoc] at hbelow habove
  change i.scaled k + 2 * (10 ^ 16 * _) < 2 * (10 ^ 16 * i.scaled k) at hbelow
  change i.scaled k + 2 * (10 ^ 16 * i.scaled k) < _ at habove
  have hparts := Nat.div_add_mod' (i.scaled k) (i.step k)
  have hnext := Nat.add_one_mul (i.scaled k / i.step k) (i.step k)
  -- half a step is less than the interval reaches to either side
  have hfirst : ∀ d second, i.low * 10 ^ (-k).toNat < d * i.step k →
      d * i.step k < i.high * 10 ^ (-k).toNat →
      (i.pick k d second).isSome = true := by
    intro d second hlow hhigh
    have hd : i.holds k d = true := by
      unfold holds
      split
      · simp only [Bool.and_eq_true, decide_eq_true_eq]
        omega
      · simp only [Bool.and_eq_true, decide_eq_true_eq]
        omega
    rw [pick, if_pos hd]
    rfl
  rcases i.neighbour?_cases k with ⟨hnear, heq⟩ | ⟨hnear, heq⟩
  · rw [heq]
    exact hfirst _ _ (by omega) (by omega)
  · have hmod := Nat.mod_lt (i.scaled k) hstep
    rw [heq]
    exact hfirst _ _ (by omega) (by omega)

end RoundingInterval

/-- How far the interval of a number reaches down, in quarters of its last
place. -/
def Double.lowGap (x : Double) : Nat :=
  if x.fractionField = 0 ∧ 1 < x.exponentField then 1 else 2

theorem Double.wide_interval {x : Double} (h : x.isZero = false) : x.interval.Wide := by
  have hpos := mantissa_pos h
  have hlt := x.mantissa_lt
  have hgap : 0 < x.lowGap ∧ x.lowGap ≤ 2
      ∧ 4 * x.mantissa.1 < 2 * 10 ^ 16 * x.lowGap := by
    unfold lowGap
    split
    case isTrue hpower =>
      rw [mantissa_of_fraction hpower.1 hpower.2]
      decide
    case isFalse => omega
  obtain ⟨hgap, hgap_le, hnear⟩ := hgap
  have hinterval : x.interval =
      { low := (4 * x.mantissa.1 - x.lowGap) * 2 ^ (x.mantissa.2 - 2).toNat
        value := 4 * x.mantissa.1 * 2 ^ (x.mantissa.2 - 2).toNat
        high := (4 * x.mantissa.1 + 2) * 2 ^ (x.mantissa.2 - 2).toNat
        den := 2 ^ (2 - x.mantissa.2).toNat
        closed := x.mantissa.1 % 2 = 0 } := rfl
  have hscale : 0 < 2 ^ (x.mantissa.2 - 2).toNat := Nat.pow_pos (by decide)
  have hden : 0 < 2 ^ (2 - x.mantissa.2).toNat := Nat.pow_pos (by decide)
  have hwhole : x.lowGap < 4 * x.mantissa.1 := by omega
  rw [hinterval]
  generalize 2 ^ (x.mantissa.2 - 2).toNat = scale at hscale ⊢
  generalize 4 * x.mantissa.1 = a at hnear hwhole ⊢
  have hlow : (a - x.lowGap) * scale = a * scale - x.lowGap * scale := Nat.sub_mul ..
  have hhigh : (a + 2) * scale = a * scale + 2 * scale := Nat.add_mul ..
  have hbelow := Nat.mul_lt_mul_of_pos_right hnear hscale
  have hle := Nat.mul_le_mul_right scale (Nat.le_of_lt hwhole)
  have hgap_scale := Nat.mul_le_mul_right scale hgap_le
  rw [Nat.mul_assoc] at hbelow
  refine ⟨hden, Nat.mul_pos (by omega) hscale, ?_, ?_⟩
  · show a * scale + 2 * 10 ^ 16 * ((a - x.lowGap) * scale) < 2 * 10 ^ 16 * (a * scale)
    omega
  · show a * scale + 2 * 10 ^ 16 * (a * scale) < 2 * 10 ^ 16 * ((a + 2) * scale)
    omega

-- ==================================================================== the grid

/-- A number that is not zero has no more digits than it needs. -/
theorem pow_length_toDigits_le {n : Nat} (h : 0 < n) :
    10 ^ ((Nat.toDigits 10 n).length - 1) ≤ n := by
  have hle := @Nat.length_toDigits_le_iff 10 n ((Nat.toDigits 10 n).length - 1) (by decide)
  rcases Nat.eq_zero_or_pos ((Nat.toDigits 10 n).length - 1) with hone | hmore
  · rw [hone]
    exact h
  · exact Nat.not_lt.mp fun hlt => absurd ((hle hmore).mpr hlt) (by omega)

/-- The first digit of a fraction is in the place of its decimal exponent, or
further left. -/
theorem pow_decimalExponent_le {num den : Nat} (hnum : 0 < num) (hden : 0 < den) :
    den * 10 ^ (decimalExponent num den).toNat
      ≤ num * 10 ^ (-decimalExponent num den).toNat := by
  unfold decimalExponent
  split
  case isTrue hle =>
    have hdigits := pow_length_toDigits_le (Nat.div_pos hle hden)
    have hlength : 0 < (Nat.toDigits 10 (num / den)).length := Nat.length_toDigits_pos
    generalize (Nat.toDigits 10 (num / den)).length = n at hdigits hlength
    have hup : ((n : Int) - 1).toNat = n - 1 := by omega
    have hdown : (-((n : Int) - 1)).toNat = 0 := by omega
    rw [hup, hdown, Nat.pow_zero, Nat.mul_one, Nat.mul_comm]
    exact (Nat.le_div_iff_mul_le hden).mp hdigits
  case isFalse hlt =>
    have hlength : 0 < (Nat.toDigits 10 ((den + num - 1) / num - 1)).length :=
      Nat.length_toDigits_pos
    have hdigits := (Nat.length_toDigits_le_iff (by decide) hlength).mp (Nat.le_refl _)
    generalize (Nat.toDigits 10 ((den + num - 1) / num - 1)).length = n at hdigits
    have hup : (-(n : Int)).toNat = 0 := by omega
    have hdown : (- -(n : Int)).toNat = n := by omega
    rw [hup, hdown, Nat.pow_zero, Nat.mul_one]
    have hceil := Nat.lt_mul_div_succ (den + num - 1) hnum
    have hmul : num * ((den + num - 1) / num) ≤ num * 10 ^ n :=
      Nat.mul_le_mul_left num (by omega)
    rw [Nat.mul_add, Nat.mul_one] at hceil
    omega

namespace RoundingInterval

variable {i : RoundingInterval}

/-- The grid of seventeen digits is fine enough. -/
theorem Wide.isSome_seventeenth (hi : i.Wide) :
    (i.neighbour? (decimalExponent i.value i.den - 17 + 1)).isSome = true := by
  have hvalue : 0 < i.value := by
    have := hi.below
    omega
  have hfirst := pow_decimalExponent_le hvalue hi.den_pos
  generalize decimalExponent i.value i.den = e at hfirst ⊢
  refine hi.isSome_neighbour? ?_
  have hplaces : 16 + (e - 17 + 1).toNat + (-e).toNat
      = e.toNat + (-(e - 17 + 1)).toNat := by omega
  refine Nat.le_of_mul_le_mul_right ?_ (Nat.pow_pos (by decide : 0 < 10) : 0 < 10 ^ (-e).toNat)
  calc 10 ^ 16 * i.step (e - 17 + 1) * 10 ^ (-e).toNat
      = i.den * 10 ^ (16 + (e - 17 + 1).toNat + (-e).toNat) := by
        rw [step, Nat.pow_add, Nat.pow_add]
        ring
    _ = i.den * 10 ^ e.toNat * 10 ^ (-(e - 17 + 1)).toNat := by
        rw [hplaces, Nat.pow_add, Nat.mul_assoc]
    _ ≤ i.value * 10 ^ (-e).toNat * 10 ^ (-(e - 17 + 1)).toNat :=
        Nat.mul_le_mul_right _ hfirst
    _ = i.scaled (e - 17 + 1) * 10 ^ (-e).toNat := by
        rw [scaled]
        ring

/-- Where one of the grids that are tried has a point in the interval, the
digits that are found are those of a positive number. -/
theorem Wide.shortestFrom_pos (hi : i.Wide) {e : Int} {last : Nat}
    (hlast : (i.neighbour? (e - last + 1)).isSome = true) :
    ∀ {tries count : Nat}, count ≤ last → last < count + tries →
      0 < (i.shortestFrom e tries count).1 := by
  intro tries
  induction tries with
  | zero => omega
  | succ tries ih =>
      intro count hcount htries
      unfold shortestFrom
      simp only
      split
      case h_1 d hd => exact hi.neighbour?_pos hd
      case h_2 hnone =>
        have hne : count ≠ last := by
          rintro rfl
          rw [hnone] at hlast
          cases hlast
        exact ih (by omega) (by omega)

end RoundingInterval

/-- The shortest digits of a number are found, and they are not all zero. -/
theorem Double.shortest_pos {x : Double} (h : x.isZero = false) : 0 < x.shortest.1 :=
  (wide_interval h).shortestFrom_pos (wide_interval h).isSome_seventeenth
    (by decide) (by decide)

end DeviceTwin
