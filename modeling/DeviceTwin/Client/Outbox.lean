/-
The bounded queue of frames that leave.

Frames are accepted while there is room. A sender who finds none waits
in line, for at most the send timeout if that ever ends, and gets the
next free place when it is first in line: first come, first served.
Nobody overtakes, so a frame offered without waiting is refused while
others wait. When the receiver goes away everything in the queue is lost
and every waiting sender learns that the connection is gone.

A sender is a number that nobody else has; what becomes of its frame is
its answer, given at once or after waiting.
-/
import DeviceTwin.Client.Span
import DeviceTwin.Frame

namespace DeviceTwin

/-- Why a frame was not accepted. -/
inductive TransportError where
  | timeout
  | disconnected
  deriving DecidableEq

/-- The error in words. -/
def TransportError.message : TransportError → String
  | timeout => "send timed out"
  | disconnected => "transport disconnected"

namespace Outbox

/-- A sender in line, with the time until which it waits, if there is one. -/
structure Waiting where
  sender : Nat
  frame : Frame
  deadline? : Option Nat

/-- Whether the wait is over. -/
def Waiting.isDue (w : Waiting) (now : Nat) : Bool := w.deadline?.any (· ≤ now)

/-- What became of a frame that was to be sent. -/
abbrev Answer := Except TransportError Unit

/-- How waiting ended for a sender. -/
abbrev Verdict := Nat × Answer

end Outbox

/-- Accepted frames and the senders in line. -/
structure Outbox where
  capacity : Nat
  sendTimeout : Span
  queue : List Frame := []
  line : List Outbox.Waiting := []
  connected : Bool := true

namespace Outbox

/-- The free places. -/
def room (o : Outbox) : Nat := o.capacity - o.queue.length

/-- Offers a frame without waiting: whether it was accepted. -/
def trySend (o : Outbox) (f : Frame) : Outbox × Bool :=
  if o.connected && o.line.isEmpty && 0 < o.room then ({ o with queue := o.queue ++ [f] }, true)
  else (o, false)

/-- Sends a frame: its answer, unless the sender stands in line for room. -/
def send (o : Outbox) (now sender : Nat) (f : Frame) : Outbox × Option Answer :=
  if !o.connected then (o, some (.error .disconnected))
  else if o.line.isEmpty && 0 < o.room then
    ({ o with queue := o.queue ++ [f] }, some (.ok ()))
  else ({ o with line := o.line ++ [⟨sender, f, o.sendTimeout.deadline? now⟩] }, none)

/-- The first in line take the free places. -/
def moveUp (o : Outbox) : Outbox × List Verdict :=
  let admitted := o.line.take o.room
  ({ o with queue := o.queue ++ admitted.map (·.frame), line := o.line.drop o.room },
    admitted.map fun w => (w.sender, .ok ()))

/-- Receives up to `n` of the frames in the queue. -/
def receive (o : Outbox) (n : Nat) : Outbox × List Frame × List Verdict :=
  let taken := o.queue.take n
  let (o, verdicts) := { o with queue := o.queue.drop n }.moveUp
  (o, taken, verdicts)

/-- Sends those away who waited too long. -/
def expire (o : Outbox) (now : Nat) : Outbox × List Verdict :=
  ({ o with line := o.line.filter (!·.isDue now) },
    (o.line.filter (·.isDue now)).map fun w => (w.sender, .error .timeout))

/-- Takes a sender out of the line. -/
def cancel (o : Outbox) (sender : Nat) : Outbox :=
  { o with line := o.line.filter (·.sender != sender) }

/-- The receiver goes away. -/
def disconnect (o : Outbox) : Outbox × List Verdict :=
  ({ o with queue := [], line := [], connected := false },
    o.line.map fun w => (w.sender, .error .disconnected))

end Outbox

end DeviceTwin
