/-
Values written as MessagePack bytes.

Every value has the smallest head that fits it: an integer that is not
negative is written as an unsigned one, and integers, texts, lists and
objects use the shortest of their forms. Floating-point numbers always
take eight bytes. Lengths are those of a real message, below 2^32.
-/
import DeviceTwin.Value

namespace DeviceTwin.MsgPack

/-- The lowest `width` bytes of a number, the highest first. -/
def bigEndian : (width : Nat) → Nat → List UInt8
  | 0, _ => []
  | width + 1, n => UInt8.ofNat (n / Nat.pow 256 width) :: bigEndian width n

/-- The head of a text of that many bytes. -/
def textHead (n : Nat) : List UInt8 :=
  if n < 32 then [UInt8.ofNat (0xA0 + n)]
  else if n < 256 then 0xD9 :: bigEndian 1 n
  else if n < 65536 then 0xDA :: bigEndian 2 n
  else 0xDB :: bigEndian 4 n

/-- The head of a list of that many items. -/
def listHead (n : Nat) : List UInt8 :=
  if n < 16 then [UInt8.ofNat (0x90 + n)]
  else if n < 65536 then 0xDC :: bigEndian 2 n
  else 0xDD :: bigEndian 4 n

/-- The head of an object of that many entries. -/
def objectHead (n : Nat) : List UInt8 :=
  if n < 16 then [UInt8.ofNat (0x80 + n)]
  else if n < 65536 then 0xDE :: bigEndian 2 n
  else 0xDF :: bigEndian 4 n

/-- An integer that is not negative. -/
def writeNat (n : Nat) : List UInt8 :=
  if n < 128 then [UInt8.ofNat n]
  else if n < 256 then 0xCC :: bigEndian 1 n
  else if n < 65536 then 0xCD :: bigEndian 2 n
  else if n < 4294967296 then 0xCE :: bigEndian 4 n
  else 0xCF :: bigEndian 8 n

/-- The negative integer with this magnitude, in two's complement. -/
def writeNegative (magnitude : Nat) : List UInt8 :=
  if magnitude ≤ 32 then [UInt8.ofNat (256 - magnitude)]
  else if magnitude ≤ 128 then 0xD0 :: bigEndian 1 (256 - magnitude)
  else if magnitude ≤ 32768 then 0xD1 :: bigEndian 2 (65536 - magnitude)
  else if magnitude ≤ 2147483648 then 0xD2 :: bigEndian 4 (4294967296 - magnitude)
  else 0xD3 :: bigEndian 8 (18446744073709551616 - magnitude)

/-- An integer. -/
def writeInteger (n : Integer) : List UInt8 :=
  if 0 ≤ n.val then writeNat n.val.toNat else writeNegative n.val.natAbs

/-- The bytes of a text. -/
def utf8 (s : String) : List UInt8 := s.toUTF8.toList

/-- A text. -/
def writeText (s : String) : List UInt8 :=
  let bytes := utf8 s
  textHead bytes.length ++ bytes

mutual

/-- The bytes of a value. -/
def write : Value → List UInt8
  | .null => [0xC0]
  | .bool b => [if b then 0xC3 else 0xC2]
  | .int n => writeInteger n
  | .float x => 0xCB :: bigEndian 8 x.bits.toNat
  | .text s => writeText s
  | .list items => listHead items.length ++ writeItems items
  | .object entries => objectHead entries.length ++ writeEntries entries

/-- The bytes of items, one after the other. -/
def writeItems : List Value → List UInt8
  | [] => []
  | item :: items => write item ++ writeItems items

/-- The bytes of keys and values, in turn. -/
def writeEntries : List (String × Value) → List UInt8
  | [] => []
  | (key, v) :: entries => writeText key ++ write v ++ writeEntries entries

end

end DeviceTwin.MsgPack
