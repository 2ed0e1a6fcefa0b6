/-
Texts between double quotes, for messages that show what was found.

A quoted text is meant to be read by a person and to hold no character
that could be mistaken or not be seen: the quote and the backslash get a
backslash, the four common controls their letter, every other hidden
character its code point in braces, and all else stands for itself.
-/
import DeviceTwin.Text.Printable

namespace DeviceTwin.Text

/-- One character between quotes. -/
def quotedChar (c : Char) : List Char :=
  if c = '\x00' then ['\\', '0']
  else if c = '\t' then ['\\', 't']
  else if c = '\n' then ['\\', 'n']
  else if c = '\r' then ['\\', 'r']
  else if c = '"' then ['\\', '"']
  else if c = '\\' then ['\\', '\\']
  else if isPrintable c then [c]
  else ['\\', 'u', '{'] ++ Nat.toDigits 16 c.toNat ++ ['}']

/-- The text between double quotes. -/
def quoted (s : String) : String :=
  String.ofList ('"' :: s.toList.flatMap quotedChar ++ ['"'])

example : quoted "a\"b\\\n\x07" = "\"a\\\"b\\\\\\n\\u\x7b7\x7d\"" := by decide +kernel

end DeviceTwin.Text
