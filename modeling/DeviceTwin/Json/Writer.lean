/-
Values written as JSON text.

The text has no blanks. In texts only the quote, the backslash and the
32 controls are escaped: five of the controls by a letter, the others by
their code in four hexadecimal digits; every other character stands for
itself. Entries are written in the order in which they come.
-/
import DeviceTwin.Number.Shortest
import DeviceTwin.Value

namespace DeviceTwin.Json

/-- A hexadecimal digit in lower case. -/
def hexDigit (n : Nat) : Char := Nat.digitChar n

/-- One character of a text. -/
def escape (c : Char) : List Char :=
  if c = '"' then ['\\', '"']
  else if c = '\\' then ['\\', '\\']
  else if c = '\x08' then ['\\', 'b']
  else if c = '\x0c' then ['\\', 'f']
  else if c = '\n' then ['\\', 'n']
  else if c = '\r' then ['\\', 'r']
  else if c = '\t' then ['\\', 't']
  else if c.toNat < 0x20 then
    ['\\', 'u', '0', '0', hexDigit (c.toNat / 16), hexDigit (c.toNat % 16)]
  else [c]

/-- A text between quotes. -/
def writeText (s : String) : List Char := '"' :: s.toList.flatMap escape ++ ['"']

mutual

/-- The JSON text of a value. -/
def write : Value → List Char
  | .null => "null".toList
  | .bool b => if b then "true".toList else "false".toList
  | .int n => n.text
  | .float x => x.text
  | .text s => writeText s
  | .list items => '[' :: writeItems items
  | .object entries => '{' :: writeEntries entries

/-- Items with commas between them and the closing bracket. -/
def writeItems : List Value → List Char
  | [] => [']']
  | item :: items => write item ++ writeMoreItems items

/-- Further items, each after a comma, and the closing bracket. -/
def writeMoreItems : List Value → List Char
  | [] => [']']
  | item :: items => ',' :: write item ++ writeMoreItems items

/-- Entries with commas between them and the closing brace. -/
def writeEntries : List (String × Value) → List Char
  | [] => ['}']
  | (key, v) :: entries => writeText key ++ ':' :: write v ++ writeMoreEntries entries

/-- Further entries, each after a comma, and the closing brace. -/
def writeMoreEntries : List (String × Value) → List Char
  | [] => ['}']
  | (key, v) :: entries => ',' :: writeText key ++ ':' :: write v ++ writeMoreEntries entries

end

/-- The JSON text of a value. -/
def text (v : Value) : String := String.ofList (write v)

end DeviceTwin.Json
