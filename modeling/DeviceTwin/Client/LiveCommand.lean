/-
Replies to commands that arrive on the live channel.

A device answers a command with a response or tells of an event that it
brought about. Either is about the entity and the path of the command,
leaves on the live channel and carries the correlation id of the command
and nothing else of its headers.
-/
import DeviceTwin.Client.Handle

namespace DeviceTwin

namespace Command

/-- The headers of whatever replies to a command. -/
def replyHeaders (c : Command) : Headers :=
  let live := Headers.empty.withChannel .live
  match c.headers.correlationId with
  | some id => live.withCorrelationId id
  | none => live

/-- The response to a command. -/
def response (c : Command) (status : Status) (value : Option Payload) : CommandResponse :=
  { type := SignalType.response c.type
    entity := c.entity
    path := c.path
    status := status
    value := value
    headers := c.replyHeaders }

/-- The event of this name that a command brought about. -/
def event (c : Command) (name : String) (value : Option Payload) (time : Timestamp) : Event :=
  { type := SignalType.ofParts (Signal.command c).group "events" name
    entity := c.entity
    path := c.path
    value := value
    revision := 0
    timestamp := some time
    extra := none
    headers := c.replyHeaders }

end Command

namespace Dispatcher

/-- Starts the emission of the response to a command. -/
def respond (d : Dispatcher) (now : Nat) (c : Command) (status : Status)
    (value : Option Payload) : Dispatcher :=
  d.emitLive now (.response (c.response status value))

/-- Starts the emission of an event that a command brought about. -/
def announce (d : Dispatcher) (now : Nat) (c : Command) (name : String)
    (value : Option Payload) (time : Timestamp) : Dispatcher :=
  d.emitLive now (.event (c.event name value time))

end Dispatcher

end DeviceTwin
