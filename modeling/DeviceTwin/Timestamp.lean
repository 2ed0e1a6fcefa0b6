/-
Points in time, to the nanosecond, in universal time.

A timestamp keeps the fields of its text: a date of the proleptic
Gregorian calendar and a time of day, whose second may be the 60th, a
leap second. Reading is lenient about widths, blanks and the separator
(`Timestamp.parse?` gives the grammar), moves a time with an offset to
universal time, and drops what is finer than a nanosecond. Writing is
strict and uses the fewest of no, three, six or nine decimal places.
Since offsets are whole minutes and shorter than a day, moving a time
never touches the second and changes the date by one day at most.
-/
import DeviceTwin.Text.Blank

namespace DeviceTwin

-- ================================================================= calendar

/-- Whether a year has a 29th of February. -/
def isLeapYear (year : Int) : Bool :=
  year % 4 == 0 && (year % 100 != 0 || year % 400 == 0)

/-- The days of a month. -/
def daysInMonth (year : Int) (month : Nat) : Nat :=
  if month = 2 then (if isLeapYear year then 29 else 28)
  else if month = 4 ∨ month = 6 ∨ month = 9 ∨ month = 11 then 30
  else 31

/-- The first year of the calendar in use. -/
def firstYear : Int := -262143

/-- The last year of the calendar in use. -/
def lastYear : Int := 262142

/-- A date. -/
structure Date where
  year : Int
  month : Nat
  day : Nat
  deriving DecidableEq

namespace Date

/-- Whether the calendar has this date. -/
def isValid (d : Date) : Bool :=
  firstYear ≤ d.year && d.year ≤ lastYear && 1 ≤ d.month && d.month ≤ 12 &&
    1 ≤ d.day && d.day ≤ daysInMonth d.year d.month

/-- The day before. -/
def previous (d : Date) : Date :=
  if 1 < d.day then { d with day := d.day - 1 }
  else if 1 < d.month then ⟨d.year, d.month - 1, daysInMonth d.year (d.month - 1)⟩
  else ⟨d.year - 1, 12, 31⟩

/-- The day after. -/
def next (d : Date) : Date :=
  if d.day < daysInMonth d.year d.month then { d with day := d.day + 1 }
  else if d.month < 12 then ⟨d.year, d.month + 1, 1⟩
  else ⟨d.year + 1, 1, 1⟩

end Date

-- =============================================================== timestamps

/-- A point in time. -/
structure Timestamp where
  date : Date
  hour : Nat
  minute : Nat
  second : Nat
  nano : Nat
  date_valid : date.isValid
  hour_lt : hour < 24
  minute_lt : minute < 60
  second_le : second ≤ 60
  nano_lt : nano < 1000000000
  deriving DecidableEq

namespace Timestamp

/-- The timestamp with these fields, if there is one. -/
def ofFields? (date : Date) (hour minute second nano : Nat) : Option Timestamp :=
  if h : date.isValid ∧ hour < 24 ∧ minute < 60 ∧ second ≤ 60 ∧ nano < 1000000000 then
    some ⟨date, hour, minute, second, nano, h.1, h.2.1, h.2.2.1, h.2.2.2.1, h.2.2.2.2⟩
  else none

-- ================================================================== writing

/-- A number with zeros in front up to a width. -/
def padded (width n : Nat) : List Char :=
  let digits := Nat.toDigits 10 n
  List.replicate (width - digits.length) '0' ++ digits

/-- A year: four digits from 0 to 9999, otherwise a sign and at least four digits. -/
def yearText (year : Int) : List Char :=
  if 0 ≤ year ∧ year ≤ 9999 then padded 4 year.toNat
  else (if year < 0 then '-' else '+') :: padded 4 year.natAbs

/-- The decimal places of a second. -/
def fractionText (nano : Nat) : List Char :=
  if nano = 0 then []
  else if nano % 1000000 = 0 then '.' :: padded 3 (nano / 1000000)
  else if nano % 1000 = 0 then '.' :: padded 6 (nano / 1000)
  else '.' :: padded 9 nano

/-- The text of a timestamp. -/
def text (t : Timestamp) : String :=
  String.ofList (yearText t.date.year ++ '-' :: padded 2 t.date.month ++ '-' :: padded 2 t.date.day
    ++ 'T' :: padded 2 t.hour ++ ':' :: padded 2 t.minute ++ ':' :: padded 2 t.second
    ++ fractionText t.nano ++ ['Z'])

-- ================================================================== reading

/-- Reads at least one and at most `width` digits. -/
def readDigits? (width : Nat) (cs : List Char) : Option (Nat × List Char) :=
  let digits := (cs.takeWhile Char.isDigit).take width
  if digits.isEmpty then none
  else some (Nat.ofDigitChars 10 digits 0, cs.drop digits.length)

/-- Reads a field of at most two digits, after any blanks. -/
def readField? (cs : List Char) : Option (Nat × List Char) := readDigits? 2 (Text.trimStart cs)

/-- Reads a character, after any blanks. -/
def readMark? (mark : Char) (cs : List Char) : Option (List Char) :=
  match Text.trimStart cs with
  | c :: rest => if c = mark then some rest else none
  | [] => none

/-- Reads a year, after any blanks: at most four digits, or a sign and
any number of digits. -/
def readYear? (cs : List Char) : Option (Int × List Char) :=
  match Text.trimStart cs with
  | '-' :: cs => (readDigits? cs.length cs).map fun (n, rest) => (-(n : Int), rest)
  | '+' :: cs => (readDigits? cs.length cs).map fun (n, rest) => ((n : Int), rest)
  | cs => (readDigits? 4 cs).map fun (n, rest) => ((n : Int), rest)

/-- Reads the decimal places of a second, if there are any: nine of them
count and further ones are passed over. -/
def readFraction? : List Char → Option (Nat × List Char)
  | '.' :: cs =>
      let digits := cs.takeWhile Char.isDigit
      let counted := digits.take 9
      if digits.isEmpty then none
      else some (Nat.ofDigitChars 10 counted 0 * Nat.pow 10 (9 - counted.length), cs.drop digits.length)
  | cs => some (0, cs)

/-- Two characters as a number of two digits. -/
def twoDigits? (a b : Char) : Option Nat :=
  if a.isDigit ∧ b.isDigit then some (10 * (a.toNat - '0'.toNat) + (b.toNat - '0'.toNat)) else none

/-- Reads hours and minutes of an offset, with colons or blanks between
them if any: the offset in minutes. -/
def readOffsetMinutes? : List Char → Option (Nat × List Char)
  | a :: b :: rest => do
      let hours ← twoDigits? a b
      match rest.dropWhile (fun c => c == ':' || Text.isBlank c) with
      | c :: d :: rest =>
          let minutes ← twoDigits? c d
          if minutes < 60 then some (60 * hours + minutes, rest) else none
      | _ => none
  | _ => none

/-- Reads an offset in minutes, after any blanks. The word for universal
time and the letter for it are offsets of zero, and the sign may be a
hyphen or a minus sign. -/
def readOffset? (cs : List Char) : Option (Int × List Char) :=
  let cs := Text.trimStart cs
  if (cs.take 3).map Char.toUpper = ['U', 'T', 'C'] then some (0, cs.drop 3)
  else match cs with
    | 'Z' :: rest => some (0, rest)
    | 'z' :: rest => some (0, rest)
    | '+' :: rest => (readOffsetMinutes? rest).map fun (n, rest) => ((n : Int), rest)
    | '-' :: rest => (readOffsetMinutes? rest).map fun (n, rest) => (-(n : Int), rest)
    | '−' :: rest => (readOffsetMinutes? rest).map fun (n, rest) => (-(n : Int), rest)
    | _ => none

/-- The minutes of a day. -/
def minutesPerDay : Int := 1440

/-- Moves a time with an offset to universal time. -/
def toUniversal? (date : Date) (hour minute second nano : Nat) (offset : Int) :
    Option Timestamp := do
  let _ ← ofFields? date hour minute second nano
  if offset.natAbs < 1440 then
    let total := 60 * (hour : Int) + minute - offset
    let (date, total) :=
      if total < 0 then (date.previous, total + minutesPerDay)
      else if minutesPerDay ≤ total then (date.next, total - minutesPerDay)
      else (date, total)
    ofFields? date (total / 60).toNat (total % 60).toNat second nano
  else none

/-- Reads a timestamp: date, one of T, t and blank, time, offset. There
may be blanks in front of every field, mark and offset and at the end. -/
def parse? (s : String) : Option Timestamp := do
  let (year, cs) ← readYear? s.toList
  let cs ← readMark? '-' cs
  let (month, cs) ← readField? cs
  let cs ← readMark? '-' cs
  let (day, cs) ← readField? cs
  let cs ← match cs with
    | 'T' :: cs => some cs
    | 't' :: cs => some cs
    | ' ' :: cs => some cs
    | _ => none
  let (hour, cs) ← readField? cs
  let cs ← readMark? ':' cs
  let (minute, cs) ← readField? cs
  let cs ← readMark? ':' cs
  let (second, cs) ← readField? cs
  let (nano, cs) ← readFraction? cs
  let (offset, cs) ← readOffset? cs
  if (Text.trimStart cs).isEmpty then
    toUniversal? ⟨year, month, day⟩ hour minute second nano offset
  else none

end Timestamp

end DeviceTwin
