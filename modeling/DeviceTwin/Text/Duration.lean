/-
Spans of time as messages show them.

A span is written in the largest of the units s, ms, µs and ns of which
there is at least one, with as many decimal places as it needs, and no
time at all in nanoseconds: 0ns, 250ms, 1s, 1.5s, 1.001s.
-/

namespace DeviceTwin.Text

/-- The decimal places of a part of `10 ^ places`, without zeros at the end. -/
def decimals : Nat → Nat → List Char
  | 0, _ => []
  | places + 1, part =>
      if part = 0 then []
      else Nat.digitChar (part / 10 ^ places) :: decimals places (part % 10 ^ places)

/-- A number of units and a part of `10 ^ places` of one, with a point in
front of the decimal places if there are any. -/
def decimal (units places part : Nat) : String :=
  if part = 0 then toString units
  else toString units ++ "." ++ String.ofList (decimals places part)

/-- The text of a span of seconds and nanoseconds, fewer than a second has. -/
def duration (seconds nanos : Nat) : String :=
  if 0 < seconds then decimal seconds 9 nanos ++ "s"
  else if 1000000 ≤ nanos then decimal (nanos / 1000000) 6 (nanos % 1000000) ++ "ms"
  else if 1000 ≤ nanos then decimal (nanos / 1000) 3 (nanos % 1000) ++ "µs"
  else decimal nanos 0 0 ++ "ns"

example : [(0, 0), (0, 999), (0, 1050), (0, 250000000), (0, 1000001), (1, 0), (1, 500000000),
      (1, 1000000), (1, 10000000), (123456, 789000000)].map (fun (s, n) => duration s n) =
    ["0ns", "999ns", "1.05µs", "250ms", "1.000001ms", "1s", "1.5s", "1.001s", "1.01s",
      "123456.789s"] := by decide +kernel

end DeviceTwin.Text
