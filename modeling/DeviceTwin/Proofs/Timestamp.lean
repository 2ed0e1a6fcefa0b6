/-
Points in time are read back as they are written.

A text of a timestamp is a row of numbers with marks between them. Each
number is padded to a width, so as many digits are read as were written
(`readDigits?_padded`), and the mark behind it, which is no digit, ends it.
The rest is about the two fields of varying width: a year of more than four
digits has a sign in front, behind which any number of digits is read, and
a fraction is read with as many zeros added as were taken off.
-/
import DeviceTwin.Timestamp
import Mathlib.Algebra.Group.Nat.Defs

namespace DeviceTwin.Timestamp

-- =================================================================== numbers

/-- No digit is in front. -/
def Marked (rest : List Char) : Prop := rest.takeWhile Char.isDigit = []

theorem marked_cons {c : Char} {cs : List Char} (h : c.isDigit = false) :
    Marked (c :: cs) := by
  unfold Marked
  rw [List.takeWhile_cons, h]
  rfl

theorem isDigit_padded {width n : Nat} : ∀ c ∈ padded width n, c.isDigit = true := by
  intro c hc
  rcases List.mem_append.mp hc with hzero | hdigit
  · rw [List.eq_of_mem_replicate hzero]
    rfl
  · exact Nat.isDigit_of_mem_toDigits (by decide) (by decide) hdigit

theorem ofDigitChars_padded (width n : Nat) :
    Nat.ofDigitChars 10 (padded width n) 0 = n := by
  unfold padded
  rw [Nat.ofDigitChars_append, Nat.ofDigitChars_replicate_zero, Nat.mul_zero,
    Nat.ofDigitChars_toDigits (by decide) (by decide)]

theorem padded_ne_nil (width n : Nat) : padded width n ≠ [] := by
  simp [padded]

/-- A number that fits a width takes that width. -/
theorem length_padded {width n : Nat} (hwidth : 0 < width) (h : n < 10 ^ width) :
    (padded width n).length = width := by
  have hdigits := (Nat.length_toDigits_le_iff (by decide) hwidth).mpr h
  simp only [padded, List.length_append, List.length_replicate]
  omega

theorem takeWhile_padded {width n : Nat} {rest : List Char} (hrest : Marked rest) :
    (padded width n ++ rest).takeWhile Char.isDigit = padded width n := by
  rw [List.takeWhile_append_of_pos isDigit_padded, hrest, List.append_nil]

/-- The digits of a number are read up to the mark behind them. -/
theorem readDigits?_padded {width atMost n : Nat} {rest : List Char}
    (hrest : Marked rest) (hlength : (padded width n).length ≤ atMost) :
    readDigits? atMost (padded width n ++ rest) = some (n, rest) := by
  have hempty : (padded width n).isEmpty = false := by
    simpa using padded_ne_nil width n
  simp only [readDigits?, takeWhile_padded hrest, List.take_of_length_le hlength,
    hempty, Bool.false_eq_true, if_false, ofDigitChars_padded, List.drop_left]

/-- No blank is a digit. -/
theorem not_isBlank_of_isDigit {c : Char} (h : c.isDigit = true) :
    Text.isBlank c = false := by
  have hrange : 48 ≤ c.toNat ∧ c.toNat ≤ 57 := by
    simpa [Char.isDigit, UInt32.le_iff_toNat_le] using h
  simp [Text.isBlank, Text.blankRanges]
  omega

theorem trimStart_padded (width n : Nat) (rest : List Char) :
    Text.trimStart (padded width n ++ rest) = padded width n ++ rest := by
  cases hp : padded width n with
  | nil => exact absurd hp (padded_ne_nil width n)
  | cons c cs =>
      have hdigit : c.isDigit = true :=
        isDigit_padded c (hp ▸ List.mem_cons_self)
      have hblank := not_isBlank_of_isDigit hdigit
      simp [Text.trimStart, hblank]

-- ==================================================================== fields

/-- A field of two digits is read. -/
theorem readField?_padded {n : Nat} {rest : List Char} (hrest : Marked rest)
    (h : n < 100) : readField? (padded 2 n ++ rest) = some (n, rest) := by
  rw [readField?, trimStart_padded]
  exact readDigits?_padded hrest (Nat.le_of_eq (length_padded (by decide) h))

/-- A mark that is no blank is read. -/
theorem readMark?_cons {mark : Char} {rest : List Char}
    (h : Text.isBlank mark = false) :
    readMark? mark (mark :: rest) = some rest := by
  have htrim : Text.trimStart (mark :: rest) = mark :: rest := by
    simp [Text.trimStart, h]
  simp [readMark?, htrim]

/-- A year is read, with or without a sign. -/
theorem readYear?_yearText {year : Int} {rest : List Char}
    (hrest : Marked rest) :
    readYear? (yearText year ++ rest) = some (year, rest) := by
  have hsigned : ∀ n, readDigits? (padded 4 n ++ rest).length
      (padded 4 n ++ rest) = some (n, rest) := fun n =>
    readDigits?_padded hrest (by simp)
  unfold yearText
  split
  case isTrue hfour =>
    have hread : readDigits? 4 (padded 4 year.toNat ++ rest)
        = some (year.toNat, rest) :=
      readDigits?_padded hrest
        (Nat.le_of_eq (length_padded (by decide) (by omega)))
    have hyear : ((year.toNat : Nat) : Int) = year := Int.toNat_of_nonneg hfour.1
    -- a digit in front is no sign
    rw [readYear?, trimStart_padded]
    cases hp : padded 4 year.toNat with
    | nil => exact absurd hp (padded_ne_nil _ _)
    | cons c cs =>
        have hdigit : c.isDigit = true :=
          isDigit_padded c (hp ▸ List.mem_cons_self)
        rw [hp] at hread
        split
        case h_1 heq =>
          obtain ⟨rfl, -⟩ := List.cons.inj heq
          cases hdigit
        case h_2 heq =>
          obtain ⟨rfl, -⟩ := List.cons.inj heq
          cases hdigit
        case h_3 =>
          simp only [hread, Option.map_some, hyear]
  case isFalse hlong =>
    split
    case isTrue hneg =>
      have hyear : -((year.natAbs : Nat) : Int) = year := by omega
      have htrim : Text.trimStart ('-' :: (padded 4 year.natAbs ++ rest))
          = '-' :: (padded 4 year.natAbs ++ rest) := rfl
      rw [List.cons_append, readYear?, htrim]
      simp only [hsigned, Option.map_some, hyear]
    case isFalse hpos =>
      have hyear : ((year.natAbs : Nat) : Int) = year := by omega
      have htrim : Text.trimStart ('+' :: (padded 4 year.natAbs ++ rest))
          = '+' :: (padded 4 year.natAbs ++ rest) := rfl
      rw [List.cons_append, readYear?, htrim]
      simp only [hsigned, Option.map_some, hyear]

/-- The decimal places of a number are read with the zeros that they stand
for. -/
theorem readFraction?_padded {width n : Nat} {rest : List Char}
    (hrest : Marked rest) (hwidth : 0 < width) (hnine : width ≤ 9)
    (h : n < 10 ^ width) :
    readFraction? ('.' :: (padded width n ++ rest))
      = some (n * 10 ^ (9 - width), rest) := by
  have hlength := length_padded hwidth h
  have hempty : (padded width n).isEmpty = false := by
    simpa using padded_ne_nil width n
  have htake : (padded width n).take 9 = padded width n :=
    List.take_of_length_le (by omega)
  have hdrop : (padded width n ++ rest).drop width = rest :=
    List.drop_left' hlength
  simp only [readFraction?, takeWhile_padded hrest, htake, hempty,
    Bool.false_eq_true, if_false, ofDigitChars_padded, hlength, hdrop,
    Nat.pow_eq]

/-- A fraction is read. -/
theorem readFraction?_fractionText {nano : Nat} (h : nano < 1000000000) :
    readFraction? (fractionText nano ++ ['Z']) = some (nano, ['Z']) := by
  have hmark : Marked ['Z'] := rfl
  unfold fractionText
  split
  case isTrue hzero =>
    rw [hzero]
    rfl
  case isFalse =>
    split
    case isTrue hmilli =>
      have hvalue : nano / 1000000 * 10 ^ (9 - 3) = nano := by omega
      rw [List.cons_append, readFraction?_padded hmark (by decide) (by decide)
        (by omega), hvalue]
    case isFalse =>
      split
      case isTrue hmicro =>
        have hvalue : nano / 1000 * 10 ^ (9 - 6) = nano := by omega
        rw [List.cons_append, readFraction?_padded hmark (by decide) (by decide)
          (by omega), hvalue]
      case isFalse =>
        rw [List.cons_append, readFraction?_padded hmark (by decide) (by decide)
          (by omega), Nat.sub_self, Nat.pow_zero, Nat.mul_one]

-- ==================================================================== reading

theorem ofFields?_fields (t : Timestamp) :
    ofFields? t.date t.hour t.minute t.second t.nano = some t :=
  dif_pos ⟨t.date_valid, t.hour_lt, t.minute_lt, t.second_le, t.nano_lt⟩

/-- A time in universal time stays where it is. -/
theorem toUniversal?_zero (t : Timestamp) :
    toUniversal? t.date t.hour t.minute t.second t.nano 0 = some t := by
  obtain hhour := t.hour_lt
  obtain hminute := t.minute_lt
  have hlow : ¬ 60 * (t.hour : Int) + t.minute - 0 < 0 := by omega
  have hhigh : ¬ minutesPerDay ≤ 60 * (t.hour : Int) + t.minute - 0 := by
    unfold minutesPerDay
    omega
  have hdiv : ((60 * (t.hour : Int) + t.minute - 0) / 60).toNat = t.hour := by omega
  have hmod : ((60 * (t.hour : Int) + t.minute - 0) % 60).toNat = t.minute := by omega
  simp only [toUniversal?, t.ofFields?_fields, Option.bind_eq_bind, Option.bind_some,
    if_neg hlow, if_neg hhigh, hdiv, hmod]
  rfl

/-- No field of a date has more than two digits but the year. -/
theorem date_lt (t : Timestamp) : t.date.month < 100 ∧ t.date.day < 100 := by
  have hvalid := t.date_valid
  have hdays : daysInMonth t.date.year t.date.month ≤ 31 := by
    unfold daysInMonth
    split
    · split <;> decide
    · split <;> decide
  simp only [Date.isValid, Bool.and_eq_true, decide_eq_true_eq] at hvalid
  omega

/-- A point in time is read back as it is written. -/
theorem parse?_text (t : Timestamp) : parse? t.text = some t := by
  obtain ⟨hmonth, hday⟩ := t.date_lt
  have hhour := t.hour_lt
  have hminute := t.minute_lt
  have hsecond := t.second_le
  have hfraction : Marked (fractionText t.nano ++ ['Z']) := by
    unfold fractionText Marked
    split
    · rfl
    · split
      · rfl
      · split <;> rfl
  have htext : t.text.toList = yearText t.date.year ++ '-' :: (padded 2 t.date.month
      ++ '-' :: (padded 2 t.date.day ++ 'T' :: (padded 2 t.hour
      ++ ':' :: (padded 2 t.minute ++ ':' :: (padded 2 t.second
      ++ (fractionText t.nano ++ ['Z'])))))) := by
    simp [text]
  rw [parse?, htext]
  refine Option.bind_eq_some_iff.mpr
    ⟨_, readYear?_yearText (marked_cons rfl), ?_⟩
  refine Option.bind_eq_some_iff.mpr ⟨_, readMark?_cons rfl, ?_⟩
  refine Option.bind_eq_some_iff.mpr
    ⟨_, readField?_padded (marked_cons rfl) hmonth, ?_⟩
  refine Option.bind_eq_some_iff.mpr ⟨_, readMark?_cons rfl, ?_⟩
  refine Option.bind_eq_some_iff.mpr
    ⟨_, readField?_padded (marked_cons rfl) hday, ?_⟩
  refine Option.bind_eq_some_iff.mpr ⟨_, rfl, ?_⟩
  refine Option.bind_eq_some_iff.mpr
    ⟨_, readField?_padded (marked_cons rfl) (by omega), ?_⟩
  refine Option.bind_eq_some_iff.mpr ⟨_, readMark?_cons rfl, ?_⟩
  refine Option.bind_eq_some_iff.mpr
    ⟨_, readField?_padded (marked_cons rfl) (by omega), ?_⟩
  refine Option.bind_eq_some_iff.mpr ⟨_, readMark?_cons rfl, ?_⟩
  refine Option.bind_eq_some_iff.mpr
    ⟨_, readField?_padded hfraction (by omega), ?_⟩
  refine Option.bind_eq_some_iff.mpr
    ⟨_, readFraction?_fractionText t.nano_lt, ?_⟩
  exact t.toUniversal?_zero

end DeviceTwin.Timestamp
