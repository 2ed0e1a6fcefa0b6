/-
Time as the client sees it.

A time is a number of nanoseconds since the zero of the clock. A clock
counts its seconds with a sign in 64 bits, so it has a last time
(`Clock.last`), which is three hundred thousand million years away.

A span is how long to wait: seconds in 64 bits and a fraction of a second.
So there are spans that end after the last time of the clock, wherever they
begin. Who waits in line for such a span waits without an end, and where an
end must be named it is put off by thirty years, which a clock can show
unless it is close to its last time.
-/
import DeviceTwin.Text.Duration

namespace DeviceTwin

namespace Clock

/-- A second, in nanoseconds. -/
def second : Nat := 1000000000

/-- The last time that a clock can show, in the last of its seconds. -/
def last : Nat := 9223372036854775807 * second + (second - 1)

end Clock

/-- How long to wait. -/
structure Span where
  seconds : UInt64
  /-- Nanoseconds on top of the seconds. -/
  fraction : Fin Clock.second
  deriving DecidableEq

namespace Span

/-- A number of milliseconds. -/
def ms (n : UInt64) : Span where
  seconds := n / 1000
  fraction := ⟨n.toNat % 1000 * 1000000, by unfold Clock.second; omega⟩

/-- The longest span. -/
def longest : Span := ⟨18446744073709551615, ⟨Clock.second - 1, by decide⟩⟩

/-- Thirty years of 365 days. -/
def thirtyYears : Span := ⟨86400 * 365 * 30, ⟨0, by decide⟩⟩

/-- The span in nanoseconds. -/
def nanos (s : Span) : Nat := s.seconds.toNat * Clock.second + s.fraction

/-- The time until which to wait from `now` on, if a clock can show it. -/
def deadline? (now : Nat) (s : Span) : Option Nat :=
  if now + s.nanos ≤ Clock.last then some (now + s.nanos) else none

/-- The time until which to wait from `now` on, or in thirty years if no clock can show it. -/
def deadline (now : Nat) (s : Span) : Nat :=
  (s.deadline? now).getD (now + thirtyYears.nanos)

/-- The span in words. -/
def text (s : Span) : String := Text.duration s.seconds.toNat s.fraction

example : (ms 1500).text = "1.5s" ∧ longest.text = "18446744073709551615.999999999s" := by
  decide +kernel

-- =================================================================== deadlines

variable {now : Nat} {s : Span}

/-- A clock shows the sum if it is no later than its last moment. -/
theorem deadline?_eq_some_iff {until' : Nat} :
    s.deadline? now = some until' ↔ until' = now + s.nanos ∧ until' ≤ Clock.last := by
  unfold deadline?
  split
  case isTrue hshown =>
    rw [Option.some.injEq]
    constructor
    · rintro rfl
      exact ⟨rfl, hshown⟩
    · exact fun h => h.1.symm
  case isFalse hbeyond =>
    refine ⟨nofun, ?_⟩
    rintro ⟨rfl, hshown⟩
    exact absurd hshown hbeyond

/-- A deadline is the sum of the time and the span, or in thirty years if no
clock can show that. -/
theorem deadline_eq (now : Nat) (s : Span) :
    s.deadline now
      = if now + s.nanos ≤ Clock.last then now + s.nanos else now + thirtyYears.nanos := by
  rw [deadline, deadline?, apply_ite (Option.getD · _), Option.getD_some, Option.getD_none]

example : (ms 7).deadline 7 = 7000007 ∧ longest.deadline 7 = 7 + thirtyYears.nanos := by
  decide

end Span

end DeviceTwin
