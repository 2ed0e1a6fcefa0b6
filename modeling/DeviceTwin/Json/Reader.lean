/-
JSON text read into outlines.

The reader follows the grammar of JSON to the letter: blanks are space,
tab, line feed and carriage return, numbers have no leading zeros, no
controls stand in texts, no comma comes before a closing bracket. Where
the text leaves the grammar the outline ends in `broken`. A text with
half a surrogate pair and a number out of range are spelled well but
`unfit`.

`outline` reads with fuel, which each list, object, item and entry uses
up by one; the length of the text is always enough, as each of these
takes at least one character.
-/
import DeviceTwin.Number.Literal
import DeviceTwin.Outline.Decode

namespace DeviceTwin.Json

-- =================================================================== blanks

/-- The blanks of JSON. -/
def isBlank (c : Char) : Bool := c == ' ' || c == '\n' || c == '\t' || c == '\r'

/-- The text without the blanks in front. -/
def skipBlanks (cs : List Char) : List Char := cs.dropWhile isBlank

-- ==================================================================== texts

/-- A character of a text, or a UTF-16 unit that was given by its code. -/
inductive Piece where
  | char (c : Char)
  | unit (n : Nat)

/-- The value of a hexadecimal digit of either case. -/
def hexValue? (c : Char) : Option Nat :=
  if '0' ≤ c ∧ c ≤ '9' then some (c.toNat - '0'.toNat)
  else if 'a' ≤ c ∧ c ≤ 'f' then some (c.toNat - 'a'.toNat + 10)
  else if 'A' ≤ c ∧ c ≤ 'F' then some (c.toNat - 'A'.toNat + 10)
  else none

/-- The value of four hexadecimal digits. -/
def hexUnit? (a b c d : Char) : Option Nat := do
  let a ← hexValue? a
  let b ← hexValue? b
  let c ← hexValue? c
  let d ← hexValue? d
  return ((a * 16 + b) * 16 + c) * 16 + d

/-- The character that a one-letter escape stands for. -/
def unescape? : Char → Option Char
  | '"' => some '"'
  | '\\' => some '\\'
  | '/' => some '/'
  | 'b' => some '\x08'
  | 'f' => some '\x0c'
  | 'n' => some '\n'
  | 'r' => some '\r'
  | 't' => some '\t'
  | _ => none

/-- Reads the rest of a text after its opening quote, with what follows
the closing quote. -/
def readPieces : List Char → Option (List Piece × List Char)
  | [] => none
  | '"' :: rest => some ([], rest)
  | '\\' :: 'u' :: a :: b :: c :: d :: rest =>
      match hexUnit? a b c d, readPieces rest with
      | some n, some (pieces, rest) => some (.unit n :: pieces, rest)
      | _, _ => none
  | '\\' :: e :: rest =>
      match unescape? e, readPieces rest with
      | some c, some (pieces, rest) => some (.char c :: pieces, rest)
      | _, _ => none
  | c :: rest =>
      if c.toNat < 0x20 then none
      else match readPieces rest with
        | some (pieces, rest) => some (.char c :: pieces, rest)
        | none => none

/-- Joins surrogate pairs; none if half a pair is left alone. -/
def joinPieces : List Piece → Option (List Char)
  | [] => some []
  | .char c :: pieces => (joinPieces pieces).map (c :: ·)
  | .unit n :: pieces =>
      if 0xD800 ≤ n ∧ n < 0xDC00 then
        match pieces with
        | .unit m :: pieces =>
            if 0xDC00 ≤ m ∧ m < 0xE000 then
              (joinPieces pieces).map
                (Char.ofNat (0x10000 + (n - 0xD800) * 0x400 + (m - 0xDC00)) :: ·)
            else none
        | _ => none
      else if 0xDC00 ≤ n ∧ n < 0xE000 then none
      else (joinPieces pieces).map (Char.ofNat n :: ·)

/-- Reads the rest of a text after its opening quote. -/
def readText (cs : List Char) : Outline × List Char :=
  match readPieces cs with
  | none => (.broken, [])
  | some (pieces, rest) =>
      match joinPieces pieces with
      | some chars => (.text (String.ofList chars), rest)
      | none => (.unfit, rest)

-- ================================================================== numbers

/-- The digits in front and the rest. -/
def takeDigits (cs : List Char) : List Char × List Char :=
  (cs.takeWhile Char.isDigit, cs.dropWhile Char.isDigit)

/-- Reads whole digits: a zero alone or digits that start with none. -/
def readWhole (cs : List Char) : Option (List Char × List Char) :=
  match takeDigits cs with
  | ([], _) => none
  | ('0' :: _ :: _, _) => none
  | parts => some parts

/-- Reads the fraction, if there is one: a point and at least one digit. -/
def readFraction : List Char → Option (Option (List Char) × List Char)
  | '.' :: cs =>
      match takeDigits cs with
      | ([], _) => none
      | (digits, rest) => some (some digits, rest)
  | cs => some (none, cs)

/-- Reads the digits of an exponent. -/
def readExponentDigits (negative : Bool) (cs : List Char) : Option (Option Int × List Char) :=
  match takeDigits cs with
  | ([], _) => none
  | (digits, rest) =>
      let n : Int := Nat.ofDigitChars 10 digits 0
      some (some (if negative then -n else n), rest)

/-- Reads the exponent, if there is one: the letter, perhaps a sign, and
at least one digit. -/
def readExponent : List Char → Option (Option Int × List Char)
  | c :: cs =>
      if c = 'e' ∨ c = 'E' then
        match cs with
        | '+' :: cs => readExponentDigits false cs
        | '-' :: cs => readExponentDigits true cs
        | cs => readExponentDigits false cs
      else some (none, c :: cs)
  | [] => some (none, [])

/-- Reads a number without its sign. -/
def readLiteral (negative : Bool) (cs : List Char) : Option (Literal × List Char) := do
  let (whole, cs) ← readWhole cs
  let (fraction, cs) ← readFraction cs
  let (exponent, cs) ← readExponent cs
  return ({ negative, whole, fraction := fraction.getD [], exponent := exponent.getD 0,
            isWhole := fraction.isNone && exponent.isNone }, cs)

/-- Reads a number. -/
def readNumber (cs : List Char) : Outline × List Char :=
  let literal := match cs with
    | '-' :: cs => readLiteral true cs
    | cs => readLiteral false cs
  match literal with
  | none => (.broken, [])
  | some (literal, rest) =>
      match literal.value? with
      | some (.int n) => (.int n, rest)
      | some (.float x) => (.float x, rest)
      | none => (.unfit, rest)

-- =================================================================== values

/-- Reads the rest of a word that stands for `o`. -/
def readWord (word : List Char) (o : Outline) (cs : List Char) : Outline × List Char :=
  if word.isPrefixOf cs then (o, cs.drop word.length) else (.broken, [])

mutual

/-- Reads one value. -/
def readValue : Nat → List Char → Outline × List Char
  | 0, _ => (.broken, [])
  | fuel + 1, cs =>
      match skipBlanks cs with
      | '"' :: cs => readText cs
      | '[' :: cs =>
          let (items, rest) := readItems fuel true cs
          (.list items, rest)
      | '{' :: cs =>
          let (entries, rest) := readEntries fuel true cs
          (.object entries, rest)
      | 'n' :: cs => readWord "ull".toList .null cs
      | 't' :: cs => readWord "rue".toList (.bool true) cs
      | 'f' :: cs => readWord "alse".toList (.bool false) cs
      | c :: cs => if c = '-' ∨ c.isDigit then readNumber (c :: cs) else (.broken, [])
      | [] => (.broken, [])

/-- Reads the items of a list up to its closing bracket. -/
def readItems : Nat → Bool → List Char → List Outline × List Char
  | 0, _, _ => ([.broken], [])
  | fuel + 1, first, cs =>
      match skipBlanks cs with
      | ']' :: rest => ([], rest)
      | ',' :: cs =>
          match first, skipBlanks cs with
          | true, _ => ([.broken], [])
          | false, ']' :: _ => ([.broken], [])
          | false, cs => readItem fuel cs
      | cs => if first then readItem fuel cs else ([.broken], [])

/-- Reads an item and those after it. -/
def readItem : Nat → List Char → List Outline × List Char
  | 0, _ => ([.broken], [])
  | fuel + 1, cs =>
      let (item, rest) := readValue fuel cs
      let (items, rest) := readItems fuel false rest
      (item :: items, rest)

/-- Reads the entries of an object up to its closing brace. -/
def readEntries : Nat → Bool → List Char → List (Outline × Outline) × List Char
  | 0, _, _ => ([(.broken, .broken)], [])
  | fuel + 1, first, cs =>
      match skipBlanks cs with
      | '}' :: rest => ([], rest)
      | ',' :: cs =>
          match first, skipBlanks cs with
          | true, _ => ([(.broken, .broken)], [])
          | false, '}' :: _ => ([(.broken, .broken)], [])
          | false, cs => readEntry fuel cs
      | cs => if first then readEntry fuel cs else ([(.broken, .broken)], [])

/-- Reads an entry and those after it. -/
def readEntry : Nat → List Char → List (Outline × Outline) × List Char
  | 0, _ => ([(.broken, .broken)], [])
  | fuel + 1, cs =>
      match skipBlanks cs with
      | '"' :: cs =>
          let (key, rest) := readText cs
          match skipBlanks rest with
          | ':' :: rest =>
              let (item, rest) := readValue fuel rest
              let (entries, rest) := readEntries fuel false rest
              ((key, item) :: entries, rest)
          | _ => ([(key, .broken)], [])
      | _ => ([(.broken, .broken)], [])

end

/-- The outline of a text, and whether only blanks come after it. -/
def outline (s : String) : Outline × Bool :=
  let cs := s.toList
  let (o, rest) := readValue (3 * cs.length + 3) cs
  (o, (skipBlanks rest).isEmpty)

/-- Decodes a text. Garbage after the value counts last. -/
def decode {α : Type} (read : Outline → Except DecodeError α) (s : String) :
    Except DecodeError α := do
  let (o, clean) := outline s
  let v ← read o
  if clean then .ok v else .error .unreadable

end DeviceTwin.Json
