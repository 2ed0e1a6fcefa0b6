/-
The outbox while its senders take turns.

`Outbox` is the queue between the operations of the client, when everybody who
could go on has gone on. Here nobody is waited for. A sender in line goes on when
it has its turn, and anything can come before that: the place that it is to have
becomes free, its send timeout passes, somebody gives up, the receiver goes away.

Free places belong to the first in line from the moment at which they are free,
so whoever comes new is accepted at once only if there are more places than
senders in line. A sender that has a place when its turn comes takes it, even if
its send timeout is over by then. Attempts to send are known by how many there
were before.
-/
import DeviceTwin.Client.Outbox

namespace DeviceTwin.Outbox

/-- What can happen. -/
inductive Turn where
  /-- The clock moves on. -/
  | lapse (nanos : Nat)
  | emit (f : Frame)
  | tryEmit (f : Frame)
  /-- A sender in line has its turn. -/
  | wake (sender : Nat)
  /-- A sender in line gives up. -/
  | cancel (sender : Nat)
  /-- A frame is received, if there is one. -/
  | receive
  | disconnect

/-- What comes of it. -/
inductive Report where
  | answered (sender : Nat) (answer : Answer)
  | tried (sender : Nat) (accepted : Bool)
  | cancelled (sender : Nat)
  | received (f : Frame)

/-- An outbox under a clock, and how many attempts to send there were. -/
structure Clocked where
  now : Nat := 0
  attempts : Nat := 0
  box : Outbox

/-- Whether one of the free places belongs to a sender. -/
def hasPlace (o : Outbox) (sender : Nat) : Bool := (o.line.take o.room).any (·.sender == sender)

/-- Accepts a frame. -/
def push (o : Outbox) (f : Frame) : Outbox := { o with queue := o.queue ++ [f] }

/-- A sender joins the line. -/
def join (o : Outbox) (w : Waiting) : Outbox := { o with line := o.line ++ [w] }

namespace Clocked

/-- The state after one more attempt. -/
def tried (s : Clocked) (box : Outbox) : Clocked := { s with attempts := s.attempts + 1, box }

def turn (s : Clocked) : Turn → Clocked × Option Report
  | .lapse nanos => ({ s with now := s.now + nanos }, none)
  | .emit f =>
      if !s.box.connected then (s.tried s.box, some (.answered s.attempts (.error .disconnected)))
      else if s.box.line.length < s.box.room then
        (s.tried (s.box.push f), some (.answered s.attempts (.ok ())))
      else (s.tried (s.box.join ⟨s.attempts, f, s.box.sendTimeout.deadline? s.now⟩), none)
  | .tryEmit f =>
      if s.box.connected && s.box.line.length < s.box.room then
        (s.tried (s.box.push f), some (.tried s.attempts true))
      else (s.tried s.box, some (.tried s.attempts false))
  | .wake sender =>
      match s.box.line.find? (·.sender == sender) with
      | none => (s, none)
      | some w =>
          let left := s.box.cancel sender
          if !s.box.connected then
            ({ s with box := left }, some (.answered sender (.error .disconnected)))
          else if s.box.hasPlace sender then
            ({ s with box := left.push w.frame }, some (.answered sender (.ok ())))
          else if w.isDue s.now then
            ({ s with box := left }, some (.answered sender (.error .timeout)))
          else (s, none)
  | .cancel sender =>
      if s.box.line.any (·.sender == sender) then
        ({ s with box := s.box.cancel sender }, some (.cancelled sender))
      else (s, none)
  | .receive =>
      match s.box.queue with
      | [] => (s, none)
      | f :: queue => ({ s with box := { s.box with queue } }, some (.received f))
  | .disconnect => ({ s with box := { s.box with queue := [], connected := false } }, none)

end Clocked

end DeviceTwin.Outbox
