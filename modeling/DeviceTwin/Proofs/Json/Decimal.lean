/-
Floating-point numbers of JSON are read as one number each.

The text of a floating-point number has whole digits that do not start with
a zero unless that is all, perhaps a point with digits after it, and perhaps
an exponent. This is what the reader takes for a number, so it reads all of
the text and nothing behind it (`readNumber_double`). What number the
literal denotes is a matter of the machine's arithmetic, about which nothing
is said here: it is called `numeral`.
-/
import DeviceTwin.Proofs.Json.Scalar
import DeviceTwin.Proofs.Number.Shortest
import Mathlib.Data.List.DropRight

namespace DeviceTwin.Json

-- ===================================================================== digits

/-- Digits, at least one. -/
structure Digits (ds : List Char) : Prop where
  ne_nil : ds ≠ []
  all : ∀ c ∈ ds, c.isDigit = true

/-- Digits that do not start with a zero. -/
structure Leading (ds : List Char) : Prop extends Digits ds where
  head : ds.head? ≠ some '0'

/-- What stands behind digits is no digit. -/
def Ends (rest : List Char) : Prop := ∀ c ∈ rest.head?, c.isDigit = false

/-- What does not go on with a value does not go on with digits. -/
theorem Closed.ends {rest : List Char} (h : Closed rest) : Ends rest := by
  cases h <;> simp [Ends]

theorem ends_cons {c : Char} (h : c.isDigit = false) (rest : List Char) :
    Ends (c :: rest) := by
  intro c' hc'
  obtain rfl := Option.some.inj hc'
  exact h

/-- Digits are taken up to what is none. -/
theorem takeDigits_append {ds rest : List Char} (h : ∀ c ∈ ds, c.isDigit = true)
    (hrest : Ends rest) : takeDigits (ds ++ rest) = (ds, rest) := by
  have hstop : rest.takeWhile Char.isDigit = [] ∧ rest.dropWhile Char.isDigit = rest := by
    cases rest with
    | nil => exact ⟨rfl, rfl⟩
    | cons c cs => simp [hrest c rfl]
  rw [takeDigits, List.takeWhile_append_of_pos h, List.dropWhile_append_of_pos h,
    hstop.1, hstop.2, List.append_nil]

/-- A natural number is written in digits. -/
theorem digits_toDigits (n : Nat) : Digits (Nat.toDigits 10 n) :=
  ⟨Nat.toDigits_ne_nil, isDigit_of_mem_toDigits⟩

theorem digits_zero : Digits ['0'] := digits_toDigits 0

/-- Zeros may be put behind digits. -/
theorem Digits.append_zeros {ds : List Char} (h : Digits ds) (n : Nat) :
    Digits (ds ++ List.replicate n '0') := by
  refine ⟨List.append_ne_nil_of_left_ne_nil h.ne_nil _, fun c hc => ?_⟩
  rcases List.mem_append.mp hc with hc | hc
  · exact h.all c hc
  · rw [List.eq_of_mem_replicate hc]
    rfl

/-- Zeros may be put in front of digits. -/
theorem Digits.zeros_append {ds : List Char} (h : Digits ds) (n : Nat) :
    Digits (List.replicate n '0' ++ ds) := by
  refine ⟨List.append_ne_nil_of_right_ne_nil _ h.ne_nil, fun c hc => ?_⟩
  rcases List.mem_append.mp hc with hc | hc
  · rw [List.eq_of_mem_replicate hc]
    rfl
  · exact h.all c hc

/-- Some digits in front of digits that do not start with a zero do not
either. -/
theorem Leading.of_prefix {ds front : List Char} (h : Leading ds)
    (hfront : front <+: ds) (hne : front ≠ []) : Leading front where
  ne_nil := hne
  all c hc := h.all c (hfront.subset hc)
  head := by
    obtain ⟨back, rfl⟩ := hfront
    have hhead := h.head
    rwa [List.head?_append_of_ne_nil _ hne] at hhead

/-- The digits of a positive number without the zeros at its end. -/
theorem leading_significantDigits {d : Nat} (h : 0 < d) :
    Leading (significantDigits d) := by
  have hdigits : Leading (Nat.toDigits 10 d) := ⟨digits_toDigits d, head?_toDigits h⟩
  refine hdigits.of_prefix (List.rdropWhile_prefix (· == '0') _) ?_
  intro hnil
  -- the first digit is no zero, so not all are taken off
  have hzeros := List.rdropWhile_eq_nil_iff.mp hnil
  cases hd : Nat.toDigits 10 d with
  | nil => exact Nat.toDigits_ne_nil hd
  | cons c cs =>
      have hc := hzeros c (hd ▸ List.mem_cons_self)
      have hhead := hdigits.head
      rw [hd] at hhead
      exact hhead (congrArg some (beq_iff_eq.mp hc))

-- ================================================================== literals

/-- The whole digits of a literal: a zero alone or digits that do not start
with one. -/
def Whole (ds : List Char) : Prop := ds = ['0'] ∨ Leading ds

/-- Whole digits are digits. -/
theorem Whole.digits {ds : List Char} (h : Whole ds) : Digits ds := by
  rcases h with rfl | h
  · exact digits_zero
  · exact h.toDigits

/-- The fraction of a literal, spelled `cs`. -/
inductive Fraction : List Char → Option (List Char) → Prop
  | none : Fraction [] none
  | point {ds : List Char} (h : Digits ds) : Fraction ('.' :: ds) (some ds)

/-- The exponent of a literal, spelled `cs`. -/
inductive Exponent : List Char → Option Int → Prop
  | none : Exponent [] none
  | up {ds : List Char} (h : Digits ds) :
      Exponent ('e' :: '+' :: ds) (some (Nat.ofDigitChars 10 ds 0))
  | down {ds : List Char} (h : Digits ds) :
      Exponent ('e' :: '-' :: ds) (some (-(Nat.ofDigitChars 10 ds 0 : Int)))

/-- Whole digits are read, up to what is no digit. -/
theorem readWhole_append {ds rest : List Char} (h : Whole ds) (hrest : Ends rest) :
    readWhole (ds ++ rest) = some (ds, rest) := by
  rw [readWhole, takeDigits_append h.digits.all hrest]
  split
  case h_1 heq => exact absurd (Prod.mk.inj heq).1 h.digits.ne_nil
  case h_2 c cs _ heq =>
    obtain ⟨rfl, -⟩ := Prod.mk.inj heq
    rcases h with hzero | hleading
    · cases hzero
    · exact absurd rfl hleading.head
  case h_3 => rfl

/-- An exponent does not go on with the digits in front of it. -/
theorem Exponent.ends {es rest : List Char} {e : Option Int} (h : Exponent es e)
    (hrest : Closed rest) : Ends (es ++ rest) := by
  cases h with
  | none => exact hrest.ends
  | up => exact ends_cons rfl _
  | down => exact ends_cons rfl _

/-- Nor does a fraction. -/
theorem Fraction.ends {fs rest : List Char} {f : Option (List Char)}
    (h : Fraction fs f) (hrest : Ends rest) : Ends (fs ++ rest) := by
  cases h with
  | none => exact hrest
  | point => exact ends_cons rfl _

/-- The digits of an exponent are read with their sign. -/
theorem readExponentDigits_append (negative : Bool) {ds rest : List Char}
    (h : Digits ds) (hrest : Closed rest) :
    readExponentDigits negative (ds ++ rest)
      = some (some (if negative then -(Nat.ofDigitChars 10 ds 0 : Int)
          else Nat.ofDigitChars 10 ds 0), rest) := by
  rw [readExponentDigits, takeDigits_append h.all hrest.ends]
  split
  case h_1 heq => exact absurd (Prod.mk.inj heq).1 h.ne_nil
  case h_2 heq =>
    obtain ⟨rfl, rfl⟩ := Prod.mk.inj heq
    rfl

/-- An exponent is read, or that there is none. -/
theorem readExponent_append {es rest : List Char} {e : Option Int}
    (h : Exponent es e) (hrest : Closed rest) :
    readExponent (es ++ rest) = some (e, rest) := by
  cases h with
  | none => exact hrest.readExponent
  | up h => exact readExponentDigits_append false h hrest
  | down h => exact readExponentDigits_append true h hrest

/-- A fraction is read, or that there is none, up to the exponent. -/
theorem readFraction_append {fs es rest : List Char} {f : Option (List Char)}
    {e : Option Int} (hf : Fraction fs f) (he : Exponent es e) (hrest : Closed rest) :
    readFraction (fs ++ (es ++ rest)) = some (f, es ++ rest) := by
  cases hf with
  | none =>
      cases he with
      | none => exact hrest.readFraction
      | up => rfl
      | down => rfl
  | @point ds hds =>
      rw [List.cons_append, readFraction, takeDigits_append hds.all (he.ends hrest)]
      split
      case h_1 heq => exact absurd (Prod.mk.inj heq).1 hds.ne_nil
      case h_2 heq =>
        obtain ⟨rfl, rfl⟩ := Prod.mk.inj heq
        rfl

/-- What spells a number without its sign. -/
def Spelled (cs : List Char) : Prop :=
  ∃ w fs f es e, Whole w ∧ Fraction fs f ∧ Exponent es e ∧ cs = w ++ (fs ++ es)

/-- The literal that is read does not depend on what comes after it. -/
theorem Spelled.readLiteral {cs : List Char} (h : Spelled cs) (negative : Bool) :
    ∃ l, ∀ rest, Closed rest → readLiteral negative (cs ++ rest) = some (l, rest) := by
  obtain ⟨w, fs, f, es, e, hw, hf, he, rfl⟩ := h
  refine ⟨{ negative, whole := w, fraction := f.getD [], exponent := e.getD 0,
            isWhole := f.isNone && e.isNone }, fun rest hrest => ?_⟩
  simp only [Json.readLiteral, List.append_assoc,
    readWhole_append hw (hf.ends (he.ends hrest)), readFraction_append hf he hrest,
    readExponent_append he hrest, Option.bind_eq_bind, Option.bind_some]
  rfl

/-- A number without its sign starts with a digit. -/
theorem Spelled.exists_eq_cons {cs : List Char} (h : Spelled cs) :
    ∃ c tail, cs = c :: tail ∧ c.isDigit = true := by
  obtain ⟨w, fs, f, es, e, hw, -, -, rfl⟩ := h
  cases w with
  | nil => exact absurd rfl hw.digits.ne_nil
  | cons c tail => exact ⟨c, _, rfl, hw.digits.all c List.mem_cons_self⟩

-- ================================================================== notation

/-- One digit is whole, even a zero. -/
theorem whole_singleton {c : Char} (h : c.isDigit = true) : Whole [c] := by
  by_cases hzero : c = '0'
  · exact .inl (by rw [hzero])
  · refine .inr ⟨⟨List.cons_ne_nil _ _, fun c' hc' => ?_⟩, ?_⟩
    · rwa [List.mem_singleton.mp hc']
    · exact fun hhead => hzero (Option.some.inj hhead)

/-- Zeros behind digits do not change how they start. -/
theorem Leading.append_zeros {ds : List Char} (h : Leading ds) (n : Nat) :
    Leading (ds ++ List.replicate n '0') where
  toDigits := h.toDigits.append_zeros n
  head := by
    rw [List.head?_append_of_ne_nil _ h.ne_nil]
    exact h.head

/-- Digits with the point among or behind them. -/
theorem spelled_point_within {ds : List Char} (h : Leading ds) {whole : Nat}
    (hpos : 0 < whole) :
    Spelled ((ds ++ List.replicate (whole - ds.length) '0').take whole
      ++ '.' :: (if ((ds ++ List.replicate (whole - ds.length) '0').drop whole).isEmpty
          then ['0']
          else (ds ++ List.replicate (whole - ds.length) '0').drop whole)) := by
  have hpadded := h.append_zeros (whole - ds.length)
  generalize ds ++ List.replicate (whole - ds.length) '0' = padded at hpadded ⊢
  have hwhole : Leading (padded.take whole) :=
    hpadded.of_prefix (List.take_prefix _ _) fun hnil => by
      rcases List.take_eq_nil_iff.mp hnil with hzero | hnone
      · omega
      · exact hpadded.ne_nil hnone
  have hfraction : Digits (if (padded.drop whole).isEmpty then ['0']
      else padded.drop whole) := by
    split
    case isTrue => exact digits_zero
    case isFalse hne =>
      exact ⟨fun hnil => hne (by rw [hnil]; rfl),
        fun c hc => hpadded.all c (List.mem_of_mem_drop hc)⟩
  exact ⟨_, _, _, _, _, .inr hwhole, .point hfraction, .none, by rw [List.append_nil]⟩

/-- Digits behind the point. -/
theorem spelled_point_before {ds : List Char} (h : Digits ds) (n : Nat) :
    Spelled ('0' :: '.' :: List.replicate n '0' ++ ds) :=
  ⟨['0'], _, _, _, _, .inl rfl, .point (h.zeros_append n), .none, by simp⟩

/-- One digit with an exponent behind it, or digits with the point after the
first. -/
theorem spelled_exponent {d : Char} {ds es : List Char} {e : Option Int}
    (h : Digits (d :: ds)) (he : Exponent es e) :
    Spelled (if ds = [] then d :: es else d :: '.' :: ds ++ es) := by
  have hwhole : Whole [d] := whole_singleton (h.all d List.mem_cons_self)
  split
  case isTrue => exact ⟨_, _, _, _, _, hwhole, .none, he, rfl⟩
  case isFalse hne =>
    have hfraction : Digits ds := ⟨hne, fun c hc => h.all c (List.mem_cons_of_mem _ hc)⟩
    exact ⟨_, _, _, _, _, hwhole, .point hfraction, he, rfl⟩

/-- The notation of digits spells a number. -/
theorem spelled_notate {ds : List Char} (h : Leading ds) (exponent : Int) :
    Spelled (notate ds exponent) := by
  unfold notate
  split
  case isTrue => exact spelled_point_within h (Nat.succ_pos _)
  case isFalse =>
    split
    case isTrue => exact spelled_point_before h.toDigits _
    case isFalse =>
      have hmark : ∃ e, Exponent ((if exponent < 0 then ['e', '-'] else ['e', '+'])
          ++ Nat.toDigits 10 exponent.natAbs) e := by
        split
        case isTrue => exact ⟨_, .down (digits_toDigits _)⟩
        case isFalse => exact ⟨_, .up (digits_toDigits _)⟩
      obtain ⟨e, he⟩ := hmark
      match ds, h with
      | [], h => exact absurd rfl h.ne_nil
      | [d], h => exact spelled_exponent h.toDigits he
      | d :: d' :: ds, h => exact spelled_exponent h.toDigits he

/-- The text of a floating-point number is a sign, if it is negative, and a
number without one. -/
theorem exists_text_eq (x : Double) :
    ∃ cs, Spelled cs ∧ x.text = (if x.isNegative then ['-'] else []) ++ cs := by
  simp only [Double.text]
  generalize (if x.isNegative then ['-'] else []) = sign
  split
  case isTrue =>
    exact ⟨_, ⟨['0'], _, _, _, _, .inl rfl, .point digits_zero, .none, rfl⟩, rfl⟩
  case isFalse hzero =>
    have hpos := Double.shortest_pos (Bool.eq_false_iff.mpr hzero)
    exact ⟨_, spelled_notate (leading_significantDigits hpos) _, rfl⟩

-- =================================================================== reading

/-- What the text of a floating-point number is read as. -/
def numeral (x : Double) : Outline := (readNumber x.text).1

/-- A floating-point number starts with its sign or a digit. -/
theorem exists_float_text_eq_cons (x : Double) :
    ∃ c cs, x.text = c :: cs ∧ (c = '-' ∨ c.isDigit = true) := by
  obtain ⟨cs, hcs, htext⟩ := exists_text_eq x
  rw [htext]
  split
  case isTrue => exact ⟨_, _, rfl, .inl rfl⟩
  case isFalse =>
    obtain ⟨c, tail, rfl, hc⟩ := hcs.exists_eq_cons
    exact ⟨c, tail, rfl, .inr hc⟩

section reading

variable {cs rest : List Char}

/-- What stands behind a negative number has no part in what it is read as. -/
theorem readNumber_minus (h : Spelled cs) (hrest : Closed rest) :
    readNumber ('-' :: (cs ++ rest)) = ((readNumber ('-' :: cs)).1, rest) := by
  obtain ⟨l, hl⟩ := h.readLiteral true
  have halone := hl [] .nil
  rw [List.append_nil] at halone
  simp only [readNumber, hl rest hrest, halone]
  rcases l.value? with _ | (n | x) <;> rfl

/-- A number without a sign is read as its literal says. -/
theorem readNumber_unsigned {c : Char} {tail : List Char} (hc : c ≠ '-') :
    readNumber (c :: tail) = (match readLiteral false (c :: tail) with
      | none => (.broken, [])
      | some (literal, rest) =>
          match literal.value? with
          | some (.int n) => (.int n, rest)
          | some (.float x) => (.float x, rest)
          | none => (.unfit, rest)) := by
  unfold readNumber
  split
  case h_1 heq => exact absurd (List.cons.inj heq).1 hc
  case h_2 => rfl

/-- Nor has what stands behind a number without a sign. -/
theorem readNumber_plus (h : Spelled cs) (hrest : Closed rest) :
    readNumber (cs ++ rest) = ((readNumber cs).1, rest) := by
  obtain ⟨l, hl⟩ := h.readLiteral false
  obtain ⟨c, tail, rfl, hc⟩ := h.exists_eq_cons
  have hsign : c ≠ '-' := by
    rintro rfl
    cases hc
  have halone := hl [] .nil
  have hbehind := hl rest hrest
  rw [List.append_nil] at halone
  rw [List.cons_append] at hbehind ⊢
  simp only [readNumber_unsigned hsign, halone, hbehind]
  rcases l.value? with _ | (n | x) <;> rfl

/-- A floating-point number is read up to the mark behind it. -/
theorem readNumber_double (x : Double) (hrest : Closed rest) :
    readNumber (x.text ++ rest) = (numeral x, rest) := by
  obtain ⟨cs, hcs, htext⟩ := exists_text_eq x
  rw [numeral, htext]
  split
  case isTrue => exact readNumber_minus hcs hrest
  case isFalse => exact readNumber_plus hcs hrest

end reading

end DeviceTwin.Json
