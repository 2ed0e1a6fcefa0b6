/-
What a client can be told when it starts.

Each setting has a default: a minute for a reply, five seconds for a
place in a full queue, and queues of 256 frames in both directions.
-/
import DeviceTwin.Client.Span
import DeviceTwin.Frame

namespace DeviceTwin

/-- How log lines are laid out. -/
inductive LogFormat where
  | pretty
  | compact
  | json
  deriving DecidableEq

/-- The name of a layout. -/
def LogFormat.name : LogFormat → String
  | pretty => "Pretty"
  | compact => "Compact"
  | json => "Json"

/-- The settings of a client. -/
structure Config where
  /-- How long a caller waits for the reply to a request. -/
  timeout : Span := .ms 60000
  /-- How envelopes that leave are written. -/
  format : WireFormat := .json
  /-- How many frames that leave are queued. -/
  outboundCapacity : Nat := 256
  /-- How long a sender waits for a place in the queue. -/
  sendTimeout : Span := .ms 5000
  /-- How many frames that arrive are queued. -/
  inboundCapacity : Nat := 256
  /-- How log lines are laid out. -/
  logFormat : LogFormat := .pretty

end DeviceTwin
