/-
Protocol commands: plain texts that control the connection.

A command may have parameters, written after a question mark as pairs of
key and value. In keys and values the bytes of letters and digits of
ASCII and of four marks stand for themselves, a space becomes a plus,
and every other byte is written as two hexadecimal digits after a
percent sign.
-/
import DeviceTwin.Text.Split

namespace DeviceTwin.ProtocolCommand

/-- The bytes that stand for themselves in a parameter. -/
def isPlain (b : UInt8) : Bool :=
  (0x30 ≤ b && b ≤ 0x39) || (0x41 ≤ b && b ≤ 0x5A) || (0x61 ≤ b && b ≤ 0x7A) ||
    b == 0x2A || b == 0x2D || b == 0x2E || b == 0x5F

/-- A hexadecimal digit in upper case. -/
def upperHexDigit (n : Nat) : Char :=
  if n < 10 then Char.ofNat ('0'.toNat + n) else Char.ofNat ('A'.toNat + (n - 10))

/-- One byte of a key or value. -/
def encodeByte (b : UInt8) : List Char :=
  if isPlain b then [Char.ofNat b.toNat]
  else if b = 0x20 then ['+']
  else ['%', upperHexDigit (b.toNat / 16), upperHexDigit (b.toNat % 16)]

/-- A key or value. -/
def encodeText (s : String) : List Char := s.toUTF8.toList.flatMap encodeByte

/-- A pair of key and value. -/
def encodePair (pair : String × String) : List Char :=
  encodeText pair.1 ++ '=' :: encodeText pair.2

/-- All pairs in order. -/
def encodeParams (params : List (String × String)) : List Char :=
  Text.joinWith '&' (params.map encodePair)

/-- The text of a command: alone if nothing is written for its parameters. -/
def text (command : String) (params : List (String × String)) : String :=
  let query := encodeParams params
  if query.isEmpty then command else command ++ "?" ++ String.ofList query

end DeviceTwin.ProtocolCommand
