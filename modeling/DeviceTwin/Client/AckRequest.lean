/-
Acknowledgements that a change asks for.

Each label that the sender of a change wants acknowledged can be
answered once. The answer is about the entity of the change and carries
its channel and its correlation id, and nothing else of its headers. The
requests go to a handler, all of them at once or the one for a label.
-/
import DeviceTwin.Change
import DeviceTwin.Client.Dispatcher

namespace DeviceTwin

/-- A label to be acknowledged, with what the answer carries. -/
structure AckRequest where
  label : String
  entity : EntityId
  headers : Headers
  deriving DecidableEq

/-- The answer to a request. -/
def AckRequest.answer (r : AckRequest) (status : Status) (payload : Option Payload) :
    Acknowledgement :=
  ⟨r.label, r.entity, status, r.headers, payload⟩

namespace Change

/-- The headers of every answer to a change. -/
def answerHeaders (c : Change) : Headers :=
  let routed := Headers.empty.withChannel c.headers.channel
  match c.headers.correlationId with
  | some id => routed.withCorrelationId id
  | none => routed

/-- The request for one label. -/
def ackRequestFor (c : Change) (label : String) : AckRequest :=
  ⟨label, c.entity, c.answerHeaders⟩

/-- One request for each label that is asked for, in order. -/
def ackRequests (c : Change) : List AckRequest := c.requestedAcks.map c.ackRequestFor

/-- The request for a label, if it is asked for. -/
def ackRequest? (c : Change) (label : String) : Option AckRequest :=
  (c.requestedAcks.find? (· == label)).map c.ackRequestFor

/-- Hands all requests to a handler at once. -/
def handleAckRequests {m : Type → Type} (c : Change) (handler : List AckRequest → m Unit) :
    m Unit :=
  handler c.ackRequests

/-- Hands the request for a label to a handler, if it is asked for: whether it was. -/
def handleAckRequest {m : Type → Type} [Monad m] (c : Change) (label : String)
    (handler : AckRequest → m Unit) : m Bool :=
  match c.ackRequest? label with
  | some r => do
      handler r
      return true
  | none => return false

end Change

/-- Starts the emission of the answer to a request. -/
def Dispatcher.acknowledge (d : Dispatcher) (now : Nat) (r : AckRequest) (status : Status)
    (payload : Option Payload) : Dispatcher :=
  d.emit now (.acknowledgement (r.answer status payload))

end DeviceTwin
