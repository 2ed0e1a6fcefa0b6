/-
Calls on top of frames.

A request is given a correlation id, subscribes to it, hands its frame
to the transport, and then waits for the envelope that comes back under
the id. The transport may keep the frame in line for room, and during
that time the subscription can already end; its outcome is then found
when the frame is accepted. A call that ends, in whatever way, lets go
of its reply, and with it of its subscription. An emission is a call
that is over when its frame is accepted.

Calls are numbered in the order in which they start; `nextCall` is the
number of the next one, and a call is known to the transport by its
number. The small steps below are what can happen to the calls one at a
time. Every operation is made of small steps at a time `now`: what
happens without anybody asking (timers, places that become free,
outcomes that calls have waited for) is brought about by `settle`, which
ends every operation that can leave something to do, so between
operations nothing is due. Calls that ended are collected in `finished`,
in order.
-/
import DeviceTwin.Client.CallError
import DeviceTwin.Client.Config
import DeviceTwin.ProtocolCommand

namespace DeviceTwin

-- ===================================================================== calls

/-- Where a call stands. -/
inductive CallState where
  /-- An emission whose frame has no answer yet. -/
  | emitting
  /-- A request whose frame has no answer yet; its subscription may have ended. -/
  | sending (request : Request) (key : String) (reply : Nat)
  /-- A request whose frame was accepted. -/
  | waiting (request : Request) (key : String) (reply : Nat)

/-- The subscription whose reply a call holds. -/
def CallState.subscription? : CallState → Option Correlator.Entry
  | emitting => none
  | sending _ key reply | waiting _ key reply => some ⟨reply, key⟩

/-- A call that has not ended. -/
structure Call where
  id : Nat
  state : CallState

/-- The call in another state, if it has the number. -/
def Call.goOn (id : Nat) (state : CallState) (call : Call) : Call :=
  if call.id = id then ⟨id, state⟩ else call

/-- How a call ended: nothing more to say for an emission, a signal for a
request, or an error. -/
abbrev CallResult := Except CallError (Option Signal)

/-- The calls of a client and what they wait for. -/
structure Dispatcher where
  format : WireFormat
  timeout : Span
  correlator : Correlator Envelope := {}
  outbox : Outbox
  calls : List Call := []
  nextCall : Nat := 0
  finished : List (Nat × CallResult) := []

namespace Dispatcher

/-- The calls of a client at its start. -/
def ofConfig (config : Config) : Dispatcher :=
  { format := config.format
    timeout := config.timeout
    outbox := { capacity := config.outboundCapacity, sendTimeout := config.sendTimeout } }

/-- The frame of a signal. -/
def encode (d : Dispatcher) (s : Signal) : Frame := d.format.encode (.ofSignal s)

/-- The call with a number, if it has not ended. -/
def call? (d : Dispatcher) (id : Nat) : Option Call := d.calls.find? (·.id == id)

/-- How the call with a number ended, if it has. -/
def result? (d : Dispatcher) (id : Nat) : Option CallResult :=
  (d.finished.find? (·.1 == id)).map (·.2)

-- ========================================================= the life of a call

/-- A call starts. -/
def enroll (d : Dispatcher) (state : CallState) : Dispatcher :=
  { d with calls := d.calls ++ [⟨d.nextCall, state⟩], nextCall := d.nextCall + 1 }

/-- A call ends as it starts. -/
def reject (d : Dispatcher) (e : CallError) : Dispatcher :=
  { d with finished := d.finished ++ [(d.nextCall, .error e)], nextCall := d.nextCall + 1 }

/-- A call goes on in another state. -/
def goOn (d : Dispatcher) (id : Nat) (state : CallState) : Dispatcher :=
  { d with calls := d.calls.map (Call.goOn id state) }

/-- A call goes and lets go of its reply. -/
def leave (d : Dispatcher) (call : Call) : Dispatcher :=
  { d with
    calls := d.calls.filter (·.id != call.id)
    correlator := match call.state.subscription? with
      | some e => d.correlator.release e.key e.number
      | none => d.correlator }

/-- A call goes with a result. -/
def finish (d : Dispatcher) (call : Call) (result : CallResult) : Dispatcher :=
  { d.leave call with finished := d.finished ++ [(call.id, result)] }

-- ================================================================ small steps

/-- Starts a request: it subscribes to its correlation id, or ends at once. -/
def enter (d : Dispatcher) (now : Nat) (r : Request) : Dispatcher :=
  match r.signal.correlationId with
  | none => d.reject (.protocol (.missingField "correlation-id"))
  | some key =>
      let (correlator, subscribed) := d.correlator.subscribe now key d.timeout
      let d := { d with correlator }
      match subscribed with
      | .ok reply => d.enroll (.sending r reply.key reply.number)
      | .error e => d.reject (.ofReplyError e)

/-- The transport answers for the frame of a call. A request whose frame
was not accepted gives its subscription up. -/
def answer (d : Dispatcher) (id : Nat) (a : Outbox.Answer) : Dispatcher :=
  match d.call? id with
  | none => d
  | some call =>
      match call.state, a with
      | .emitting, a => d.finish call ((a.mapError .transport).map fun _ => none)
      | .sending r key reply, .ok () => d.goOn id (.waiting r key reply)
      | .sending _ key reply, .error e =>
          { d with correlator := (d.correlator.unsubscribe key reply).1 }.finish call
            (.error (.transport e))
      | .waiting .., _ => d

/-- A call looks at its reply: it ends if its frame was accepted and its
subscription has ended. -/
def poll (d : Dispatcher) (id : Nat) : Dispatcher :=
  match d.call? id with
  | none => d
  | some call =>
      match call.state with
      | .waiting r _ reply =>
          match d.correlator.outcome? reply with
          | some o => d.finish call ((r.conclude o).map some)
          | none => d
      | _ => d

/-- Stops a call where it stands. -/
def drop (d : Dispatcher) (id : Nat) : Dispatcher :=
  match d.call? id with
  | none => d
  | some call => d.leave call

/-- Publishes the envelope of an inbound frame: nothing if a call waited
for it, otherwise the signal in it. -/
def take (d : Dispatcher) (f : Frame) : Dispatcher × Except ProtocolError (Option Signal) :=
  match f.decode with
  | .error e => (d, .error e)
  | .ok envelope =>
      let (correlator, returned) := d.correlator.publish envelope.correlationId envelope
      ({ d with correlator },
        match returned with
        | none => .ok none
        | some envelope => envelope.toSignal.map some)

-- =================================================================== settling

/-- Brings a verdict to the call that it is about. -/
def deliver (d : Dispatcher) (v : Outbox.Verdict) : Dispatcher := d.answer v.1 v.2

/-- Ends all calls that can end. -/
def conclude (d : Dispatcher) : Dispatcher := (d.calls.map (·.id)).foldl poll d

/-- Lets everything happen that is due: timers, senders who waited too
long, and the ends of calls. -/
def settle (d : Dispatcher) (now : Nat) : Dispatcher :=
  let (outbox, verdicts) := d.outbox.expire now
  let d := { d with correlator := d.correlator.expire now, outbox }
  (verdicts.foldl deliver d).conclude

-- ================================================================= operations

/-- Hands the frame of a call to the transport. -/
def handOver (d : Dispatcher) (now id : Nat) (f : Frame) : Dispatcher :=
  let (outbox, answered) := d.outbox.send now id f
  let d := { d with outbox }
  match answered with
  | some a => d.answer id a
  | none => d

/-- Starts a request. It gets `fresh` as its correlation id if it has none. -/
def request (d : Dispatcher) (now : Nat) (fresh : String) (r : Request) : Dispatcher :=
  let r := r.prepared fresh
  let id := d.nextCall
  let d := d.enter now r
  let d := if (d.call? id).isSome then d.handOver now id (d.encode r.signal) else d
  d.settle now

/-- Starts the emission of a frame. -/
def emitFrame (d : Dispatcher) (now : Nat) (f : Frame) : Dispatcher :=
  ((d.enroll .emitting).handOver now d.nextCall f).settle now

/-- Starts the emission of a signal, as it leaves on its channel. -/
def emit (d : Dispatcher) (now : Nat) (s : Signal) : Dispatcher :=
  d.emitFrame now (d.encode (s.forChannel s.channel))

/-- Starts the emission of a protocol command. -/
def emitCommand (d : Dispatcher) (now : Nat) (command : String)
    (params : List (String × String)) : Dispatcher :=
  d.emitFrame now (.text (ProtocolCommand.text command params))

/-- Cancels a call, if it has not ended. -/
def cancel (d : Dispatcher) (now id : Nat) : Dispatcher :=
  { d.drop id with outbox := d.outbox.cancel id }.settle now

/-- Takes an inbound frame in: nothing if a call waited for its envelope,
otherwise the signal in it. -/
def inbound (d : Dispatcher) (now : Nat) (f : Frame) :
    Dispatcher × Except ProtocolError (Option Signal) :=
  let (d, taken) := d.take f
  (d.settle now, taken)

/-- Receives up to `n` accepted frames at the other end. -/
def receive (d : Dispatcher) (now n : Nat) : Dispatcher × List Frame :=
  let (outbox, frames, verdicts) := d.outbox.receive n
  ((verdicts.foldl deliver { d with outbox }).settle now, frames)

/-- The other end goes away. -/
def disconnect (d : Dispatcher) (now : Nat) : Dispatcher :=
  let (outbox, verdicts) := d.outbox.disconnect
  (verdicts.foldl deliver { d with outbox }).settle now

/-- Offers a frame without waiting. -/
def trySend (d : Dispatcher) (f : Frame) : Dispatcher × Bool :=
  let (outbox, sent) := d.outbox.trySend f
  ({ d with outbox }, sent)

/-- Ends every subscription and admits no more. -/
def shutdown (d : Dispatcher) (now : Nat) : Dispatcher :=
  { d with correlator := d.correlator.close.1 }.settle now

end Dispatcher

end DeviceTwin
