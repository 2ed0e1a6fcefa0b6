/-
Blank characters and the trimming of blank ends.

A blank is a character with the Unicode property White_Space. The
property is a small fixed set, so it is written out here as the union of
its ranges; core's `Char.isWhitespace` knows four ASCII members of it
only.
-/

namespace DeviceTwin.Text

-- ================================================================ the class

/-- The ranges of White_Space, in order, ends included. -/
def blankRanges : List (Nat × Nat) :=
  [(0x09, 0x0D), (0x20, 0x20), (0x85, 0x85), (0xA0, 0xA0), (0x1680, 0x1680),
   (0x2000, 0x200A), (0x2028, 0x2029), (0x202F, 0x202F), (0x205F, 0x205F),
   (0x3000, 0x3000)]

/-- Membership in White_Space. -/
def isBlank (c : Char) : Bool :=
  blankRanges.any fun r => r.1 ≤ c.toNat && c.toNat ≤ r.2

-- ================================================================= trimming

/-- The text without the blanks it starts with. -/
def trimStart (cs : List Char) : List Char := cs.dropWhile isBlank

/-- Trimming leaves no blank in front. -/
theorem head?_trimStart {cs : List Char} {c : Char} (h : (trimStart cs).head? = some c) :
    isBlank c = false := by
  induction cs with
  | nil => simp [trimStart] at h
  | cons a cs ih =>
    by_cases ha : isBlank a
    · simp only [trimStart, List.dropWhile_cons_of_pos ha] at h
      exact ih h
    · simp only [trimStart, List.dropWhile_cons_of_neg ha, List.head?_cons,
        Option.some.injEq] at h
      simpa [h] using ha

end DeviceTwin.Text
