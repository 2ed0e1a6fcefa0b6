/-
Texts and integers of JSON are read back as they are written.

A text is read character by character, and each character comes back from
its escape: from itself, from a letter or from its code (`piece`). A number
has no end of its own, so what is said about it depends on what comes after
it, which is nothing or one of the three marks that can follow a value
(`Closed`).
-/
import DeviceTwin.Json.Reader
import DeviceTwin.Json.Writer

namespace DeviceTwin.Json

-- ===================================================================== texts

/-- The characters that are escaped by a letter. -/
def lettered : List Char := ['"', '\\', '\x08', '\x0c', '\n', '\r', '\t']

/-- The piece that a character is read as: the other controls are written
by their codes. -/
def piece (c : Char) : Piece :=
  if c.toNat < 0x20 ∧ c ∉ lettered then .unit c.toNat else .char c

/-- Puts a piece in front of what was read. -/
def withPiece (p : Piece) (read : Option (List Piece × List Char)) :
    Option (List Piece × List Char) :=
  read.map fun (pieces, rest) => (p :: pieces, rest)

/-- A character with a letter of its own is read from that letter. -/
theorem readPieces_letter {letter c : Char} (cs : List Char)
    (h : unescape? letter = some c) (hletter : letter ≠ 'u') :
    readPieces ('\\' :: letter :: cs) = withPiece (.char c) (readPieces cs) := by
  rw [readPieces, h]
  · cases readPieces cs <;> rfl
  · rintro a b c d rest hu -
    exact hletter hu

/-- One that is written by its code is read as its unit. -/
theorem readPieces_code {a b c d : Char} {n : Nat} (cs : List Char)
    (h : hexUnit? a b c d = some n) :
    readPieces ('\\' :: 'u' :: a :: b :: c :: d :: cs)
      = withPiece (.unit n) (readPieces cs) := by
  rw [readPieces, h]
  cases readPieces cs <;> rfl

/-- Any other is read as itself. -/
theorem readPieces_plain {c : Char} (cs : List Char) (hquote : c ≠ '"')
    (hslash : c ≠ '\\') (hcontrol : ¬ c.toNat < 0x20) :
    readPieces (c :: cs) = withPiece (.char c) (readPieces cs) := by
  rw [readPieces, if_neg hcontrol]
  · cases readPieces cs <;> rfl
  · exact hquote
  · rintro a b c d rest rfl -
    exact hslash rfl
  · rintro e rest rfl -
    exact hslash rfl

/-- The code of a control is read as its number. -/
theorem hexUnit?_hexDigit : ∀ n < 0x20,
    hexUnit? '0' '0' (hexDigit (n / 16)) (hexDigit (n % 16)) = some n := by
  decide

/-- A character with a letter is written by it. -/
theorem escape_of_mem_lettered {c : Char} (h : c ∈ lettered) :
    ∃ letter, escape c = ['\\', letter] ∧ unescape? letter = some c
      ∧ letter ≠ 'u' := by
  simp only [lettered, List.mem_cons, List.not_mem_nil, or_false] at h
  obtain rfl | rfl | rfl | rfl | rfl | rfl | rfl := h <;>
    exact ⟨_, rfl, rfl, by decide⟩

/-- One without is written by its code if it is a control, else as itself. -/
theorem escape_of_not_mem_lettered {c : Char} (h : c ∉ lettered) :
    escape c = if c.toNat < 0x20 then
      ['\\', 'u', '0', '0', hexDigit (c.toNat / 16), hexDigit (c.toNat % 16)]
    else [c] := by
  simp only [lettered, List.mem_cons, List.not_mem_nil, or_false, not_or] at h
  obtain ⟨hquote, hslash, hback, hfeed, hline, hreturn, htab⟩ := h
  rw [escape, if_neg hquote, if_neg hslash, if_neg hback, if_neg hfeed,
    if_neg hline, if_neg hreturn, if_neg htab]

/-- An escaped character is read as its piece. -/
theorem readPieces_escape (c : Char) (cs : List Char) :
    readPieces (escape c ++ cs) = withPiece (piece c) (readPieces cs) := by
  by_cases hletter : c ∈ lettered
  · obtain ⟨letter, hescape, hunescape, hu⟩ := escape_of_mem_lettered hletter
    rw [hescape, piece, if_neg fun h => h.2 hletter]
    exact readPieces_letter cs hunescape hu
  · rw [escape_of_not_mem_lettered hletter]
    split
    case isTrue hcontrol =>
      rw [piece, if_pos ⟨hcontrol, hletter⟩]
      exact readPieces_code cs (hexUnit?_hexDigit c.toNat hcontrol)
    case isFalse hplain =>
      rw [piece, if_neg fun h => hplain h.1]
      refine readPieces_plain cs ?_ ?_ hplain
      · rintro rfl
        exact hletter (by decide)
      · rintro rfl
        exact hletter (by decide)

/-- The pieces of a text are those of its characters. -/
theorem readPieces_flatMap_escape (cs rest : List Char) :
    readPieces (cs.flatMap escape ++ '"' :: rest) = some (cs.map piece, rest) := by
  induction cs with
  | nil => rfl
  | cons c cs ih =>
      rw [List.flatMap_cons, List.append_assoc, readPieces_escape, ih]
      rfl

/-- The piece of a character is joined to that character. -/
theorem joinPieces_piece (c : Char) (pieces : List Piece) :
    joinPieces (piece c :: pieces) = (joinPieces pieces).map (c :: ·) := by
  unfold piece
  split
  case isTrue hcontrol =>
    -- no control is half of a surrogate pair
    have hhigh : ¬ (0xD800 ≤ c.toNat ∧ c.toNat < 0xDC00) := by omega
    have hlow : ¬ (0xDC00 ≤ c.toNat ∧ c.toNat < 0xE000) := by omega
    rw [joinPieces.eq_def]
    simp only [if_neg hhigh, if_neg hlow, Char.ofNat_toNat]
  case isFalse => rw [joinPieces]

/-- The pieces of characters are joined to these. -/
theorem joinPieces_map_piece (cs : List Char) :
    joinPieces (cs.map piece) = some cs := by
  induction cs with
  | nil => rfl
  | cons c cs ih =>
      rw [List.map_cons, joinPieces_piece, ih]
      rfl

/-- A text is read after its opening quote. -/
theorem readText_escape (s : String) (rest : List Char) :
    readText (s.toList.flatMap escape ++ '"' :: rest) = (.text s, rest) := by
  simp only [readText, readPieces_flatMap_escape, joinPieces_map_piece,
    String.ofList_toList]

-- =================================================================== numbers

/-- What can come after a value: nothing, or a mark. -/
inductive Closed : List Char → Prop
  | nil : Closed []
  | comma (cs : List Char) : Closed (',' :: cs)
  | bracket (cs : List Char) : Closed (']' :: cs)
  | brace (cs : List Char) : Closed ('}' :: cs)

/-- What can come after a value has no digits in front. -/
theorem Closed.takeWhile {rest : List Char} (h : Closed rest) :
    rest.takeWhile Char.isDigit = [] := by
  cases h <;> rfl

/-- Nor does it start with a fraction. -/
theorem Closed.readFraction {rest : List Char} (h : Closed rest) :
    readFraction rest = some (none, rest) := by
  cases h <;> rfl

/-- Nor with an exponent. -/
theorem Closed.readExponent {rest : List Char} (h : Closed rest) :
    readExponent rest = some (none, rest) := by
  cases h <;> rfl

/-- Numbers are written in digits. -/
theorem isDigit_of_mem_toDigits {n : Nat} :
    ∀ c ∈ Nat.toDigits 10 n, c.isDigit = true :=
  fun _ hc => Nat.isDigit_of_mem_toDigits (by decide) (by decide) hc

/-- The digits of a number are taken up to the mark behind it. -/
theorem takeDigits_toDigits (n : Nat) {rest : List Char} (h : Closed rest) :
    takeDigits (Nat.toDigits 10 n ++ rest) = (Nat.toDigits 10 n, rest) := by
  have hdrop : rest.dropWhile Char.isDigit = rest := by
    cases h <;> rfl
  rw [takeDigits, List.takeWhile_append_of_pos isDigit_of_mem_toDigits,
    List.dropWhile_append_of_pos isDigit_of_mem_toDigits, h.takeWhile, hdrop,
    List.append_nil]

/-- No number but zero starts with a zero. -/
theorem head?_toDigits {n : Nat} (h : 0 < n) :
    (Nat.toDigits 10 n).head? ≠ some '0' := by
  induction n using Nat.strongRecOn with
  | ind n ih =>
      by_cases hsmall : n < 10
      · rw [Nat.toDigits_of_lt_base hsmall]
        intro hzero
        have := Nat.digitChar_eq_zero.mp (Option.some.inj hzero)
        omega
      · have hrest := ih (n / 10) (by omega) (by omega)
        rw [Nat.toDigits_of_base_le (by decide) (by omega)]
        cases hd : Nat.toDigits 10 (n / 10) with
        | nil => exact absurd hd Nat.toDigits_ne_nil
        | cons c cs =>
            rw [hd] at hrest
            exact hrest

/-- The digits of a number are read as whole digits. -/
theorem readWhole_toDigits (n : Nat) {rest : List Char} (h : Closed rest) :
    readWhole (Nat.toDigits 10 n ++ rest) = some (Nat.toDigits 10 n, rest) := by
  rw [readWhole, takeDigits_toDigits n h]
  split
  case h_1 heq => exact absurd (Prod.mk.inj heq).1 Nat.toDigits_ne_nil
  case h_2 c cs _ heq =>
    obtain ⟨hdigits, -⟩ := Prod.mk.inj heq
    rcases Nat.eq_zero_or_pos n with rfl | hpos
    · cases hdigits
    · exact absurd (hdigits ▸ rfl) (head?_toDigits hpos)
  case h_3 => rfl

/-- The literal of an integer. -/
def literal (negative : Bool) (n : Nat) : Literal where
  negative := negative
  whole := Nat.toDigits 10 n
  fraction := []
  exponent := 0
  isWhole := true

/-- The digits of a number are read as its literal. -/
theorem readLiteral_toDigits (negative : Bool) (n : Nat) {rest : List Char}
    (h : Closed rest) :
    readLiteral negative (Nat.toDigits 10 n ++ rest)
      = some (literal negative n, rest) := by
  simp only [readLiteral, readWhole_toDigits n h, h.readFraction, h.readExponent,
    Option.bind_eq_bind, Option.bind_some]
  rfl

/-- The literal of an integer denotes the integer. -/
theorem integer?_literal (n : Integer) :
    (literal (decide (n.val < 0)) n.val.natAbs).integer? = some n := by
  have hmagnitude : Nat.ofDigitChars 10 (Nat.toDigits 10 n.val.natAbs) 0
      = n.val.natAbs := Nat.ofDigitChars_toDigits (by decide) (by decide)
  unfold Literal.integer? literal
  simp only [hmagnitude, decide_eq_true_eq]
  split
  case isTrue hneg =>
    have hval : -(n.val.natAbs : Int) = n.val := by omega
    have hzero : ¬ n.val.natAbs = 0 := by omega
    have hrange : n.val.natAbs ≤ 9223372036854775808 := by
      have := n.lower
      omega
    rw [if_neg hzero, if_pos hrange, hval, Integer.ofInt?_val]
  case isFalse hpos =>
    have hval : (n.val.natAbs : Int) = n.val := by omega
    rw [hval, Integer.ofInt?_val]

/-- So the integer is its value. -/
theorem value?_literal (n : Integer) :
    (literal (decide (n.val < 0)) n.val.natAbs).value? = some (.int n) := by
  have hwhole : (literal (decide (n.val < 0)) n.val.natAbs).isWhole = true := rfl
  rw [Literal.value?, hwhole, if_pos rfl, integer?_literal]

/-- A number without a sign is its literal. -/
theorem readNumber_of_ne {c : Char} {cs rest : List Char} {l : Literal}
    {n : Integer} (hsign : c ≠ '-')
    (hl : readLiteral false (c :: cs) = some (l, rest))
    (hvalue : l.value? = some (.int n)) :
    readNumber (c :: cs) = (.int n, rest) := by
  unfold readNumber
  split
  case h_1 heq => exact absurd (List.cons.inj heq).1 hsign
  case h_2 => simp only [hl, hvalue]

/-- An integer is read up to the mark behind it. -/
theorem readNumber_text (n : Integer) {rest : List Char} (h : Closed rest) :
    readNumber (n.text ++ rest) = (.int n, rest) := by
  have hvalue := value?_literal n
  unfold Integer.text
  split
  case isTrue hneg =>
    rw [decide_eq_true hneg] at hvalue
    simp only [List.cons_append, readNumber, readLiteral_toDigits _ _ h, hvalue]
  case isFalse hpos =>
    rw [decide_eq_false hpos] at hvalue
    have hliteral := readLiteral_toDigits false n.val.natAbs h
    cases hd : Nat.toDigits 10 n.val.natAbs with
    | nil => exact absurd hd Nat.toDigits_ne_nil
    | cons c cs =>
        have hdigit : c.isDigit = true :=
          isDigit_of_mem_toDigits c (hd ▸ List.mem_cons_self)
        have hsign : c ≠ '-' := by
          rintro rfl
          cases hdigit
        rw [hd] at hliteral
        exact readNumber_of_ne hsign hliteral hvalue

end DeviceTwin.Json
