/-
MessagePack bytes read into outlines.

The first byte of a value tells its kind and either its content or how
many bytes hold the length. Bytes that end too early, and the one head
that is set aside, leave the outline `broken`. Texts that are not UTF-8
are kept as bytes, which is also what the binary kind is; extension
types are `unfit`. A narrow floating-point number is widened, and one
that is not finite is kept as such. Whatever follows the first value is
not looked at.

The fuel is used up by one for each value, item and entry, and each of
these takes at least one byte, so the number of bytes is enough.
-/
import DeviceTwin.Outline.Decode

namespace DeviceTwin.MsgPack

-- =============================================================== bytes, words

/-- The first `n` bytes and the rest, if there are so many. -/
def take? : Nat → List UInt8 → Option (List UInt8 × List UInt8)
  | 0, bs => some ([], bs)
  | n + 1, b :: bs => (take? n bs).map fun (taken, rest) => (b :: taken, rest)
  | _ + 1, [] => none

/-- The number that bytes spell, the highest first. -/
def ofBigEndian (bs : List UInt8) : Nat := bs.foldl (fun n b => 256 * n + b.toNat) 0

/-- Reads a number of `width` bytes. -/
def readNat? (width : Nat) (bs : List UInt8) : Option (Nat × List UInt8) :=
  (take? width bs).map fun (taken, rest) => (ofBigEndian taken, rest)

/-- The outline of an integer; those in frames are all in range. -/
def integer (n : Int) : Outline :=
  match Integer.ofInt? n with
  | some n => .int n
  | none => .broken

/-- Reads an unsigned integer of `width` bytes. -/
def readUnsigned (width : Nat) (bs : List UInt8) : Outline × List UInt8 :=
  match readNat? width bs with
  | some (n, rest) => (integer n, rest)
  | none => (.broken, [])

/-- Reads an integer of `width` bytes in two's complement. -/
def readSigned (width : Nat) (bs : List UInt8) : Outline × List UInt8 :=
  match readNat? width bs with
  | some (n, rest) => (integer (if 2 * n < Nat.pow 256 width then n else (n : Int) - Nat.pow 256 width), rest)
  | none => (.broken, [])

/-- The outline of a machine number. -/
def float (bits : UInt64) : Outline :=
  match Double.ofBits? bits with
  | some x => .float x
  | none => .notFinite

/-- Reads a floating-point number of eight bytes. -/
def readDouble (bs : List UInt8) : Outline × List UInt8 :=
  match readNat? 8 bs with
  | some (n, rest) => (float (UInt64.ofNat n), rest)
  | none => (.broken, [])

/-- Reads a floating-point number of four bytes. -/
def readSingle (bs : List UInt8) : Outline × List UInt8 :=
  match readNat? 4 bs with
  | some (n, rest) => (float (Float32.ofBits (UInt32.ofNat n)).toFloat.toBits, rest)
  | none => (.broken, [])

-- ======================================================== texts, bytes, others

/-- Reads a text of `n` bytes. -/
def readText (n : Nat) (bs : List UInt8) : Outline × List UInt8 :=
  match take? n bs with
  | some (taken, rest) =>
      match Outline.textOfBytes? taken with
      | some s => (.text s, rest)
      | none => (.bytes taken, rest)
  | none => (.broken, [])

/-- Reads `n` bytes. -/
def readBytes (n : Nat) (bs : List UInt8) : Outline × List UInt8 :=
  match take? n bs with
  | some (taken, rest) => (.bytes taken, rest)
  | none => (.broken, [])

/-- Reads an extension of `n` bytes after the byte that tells its type. -/
def readExtension (n : Nat) (bs : List UInt8) : Outline × List UInt8 :=
  match take? (n + 1) bs with
  | some (_, rest) => (.unfit, rest)
  | none => (.broken, [])

/-- Reads a length of `width` bytes and goes on with it. -/
def withLength (width : Nat) (bs : List UInt8)
    (read : Nat → List UInt8 → Outline × List UInt8) : Outline × List UInt8 :=
  match readNat? width bs with
  | some (n, rest) => read n rest
  | none => (.broken, [])

-- =================================================================== values

/-- A key as it is kept. An index of a field is an unsigned integer; one
that is spelled as a signed integer names nothing and is kept as null,
which names nothing either. -/
def keyOf (bs : List UInt8) (o : Outline) : Outline :=
  match bs, o with
  | b :: _, .int _ => if 0xD0 ≤ b ∧ b ≤ 0xD3 then .null else o
  | _, o => o

mutual

/-- Reads one value. -/
def readValue : Nat → List UInt8 → Outline × List UInt8
  | 0, _ => (.broken, [])
  | _ + 1, [] => (.broken, [])
  | fuel + 1, b :: bs =>
      let n := b.toNat
      if n < 0x80 then (integer n, bs)
      else if n < 0x90 then
        let (entries, rest) := readEntries fuel (n - 0x80) bs
        (.object entries, rest)
      else if n < 0xA0 then
        let (items, rest) := readItems fuel (n - 0x90) bs
        (.list items, rest)
      else if n < 0xC0 then readText (n - 0xA0) bs
      else if 0xE0 ≤ n then (integer ((n : Int) - 256), bs)
      else match n with
        | 0xC0 => (.null, bs)
        | 0xC2 => (.bool false, bs)
        | 0xC3 => (.bool true, bs)
        | 0xC4 => withLength 1 bs readBytes
        | 0xC5 => withLength 2 bs readBytes
        | 0xC6 => withLength 4 bs readBytes
        | 0xC7 => withLength 1 bs readExtension
        | 0xC8 => withLength 2 bs readExtension
        | 0xC9 => withLength 4 bs readExtension
        | 0xCA => readSingle bs
        | 0xCB => readDouble bs
        | 0xCC => readUnsigned 1 bs
        | 0xCD => readUnsigned 2 bs
        | 0xCE => readUnsigned 4 bs
        | 0xCF => readUnsigned 8 bs
        | 0xD0 => readSigned 1 bs
        | 0xD1 => readSigned 2 bs
        | 0xD2 => readSigned 4 bs
        | 0xD3 => readSigned 8 bs
        | 0xD4 => readExtension 1 bs
        | 0xD5 => readExtension 2 bs
        | 0xD6 => readExtension 4 bs
        | 0xD7 => readExtension 8 bs
        | 0xD8 => readExtension 16 bs
        | 0xD9 => withLength 1 bs readText
        | 0xDA => withLength 2 bs readText
        | 0xDB => withLength 4 bs readText
        | 0xDC => readLongList fuel 2 bs
        | 0xDD => readLongList fuel 4 bs
        | 0xDE => readLongObject fuel 2 bs
        | 0xDF => readLongObject fuel 4 bs
        | _ => (.broken, [])

/-- Reads a list whose length takes `width` bytes. -/
def readLongList : Nat → Nat → List UInt8 → Outline × List UInt8
  | 0, _, _ => (.broken, [])
  | fuel + 1, width, bs =>
      match readNat? width bs with
      | some (n, rest) =>
          let (items, rest) := readItems fuel n rest
          (.list items, rest)
      | none => (.broken, [])

/-- Reads an object whose length takes `width` bytes. -/
def readLongObject : Nat → Nat → List UInt8 → Outline × List UInt8
  | 0, _, _ => (.broken, [])
  | fuel + 1, width, bs =>
      match readNat? width bs with
      | some (n, rest) =>
          let (entries, rest) := readEntries fuel n rest
          (.object entries, rest)
      | none => (.broken, [])

/-- Reads `count` items. -/
def readItems : Nat → Nat → List UInt8 → List Outline × List UInt8
  | _, 0, bs => ([], bs)
  | 0, _, _ => ([.broken], [])
  | _, _, [] => ([.broken], [])
  | fuel + 1, count + 1, bs =>
      let (item, rest) := readValue fuel bs
      let (items, rest) := readItems fuel count rest
      (item :: items, rest)

/-- Reads `count` entries. -/
def readEntries : Nat → Nat → List UInt8 → List (Outline × Outline) × List UInt8
  | _, 0, bs => ([], bs)
  | 0, _, _ => ([(.broken, .broken)], [])
  | _, _, [] => ([(.broken, .broken)], [])
  | fuel + 1, count + 1, bs =>
      let (key, rest) := readValue fuel bs
      let key := keyOf bs key
      let (item, rest) := readValue fuel rest
      let (entries, rest) := readEntries fuel count rest
      ((key, item) :: entries, rest)

end

/-- The outline of the first value of some bytes. -/
def outline (bs : List UInt8) : Outline := (readValue (3 * bs.length + 3) bs).1

/-- Decodes bytes. -/
def decode {α : Type} (read : Outline → Except DecodeError α) (bs : List UInt8) :
    Except DecodeError α :=
  match read (outline bs) with
  | .ok v => .ok v
  | .error e => .error e.terse

end DeviceTwin.MsgPack
