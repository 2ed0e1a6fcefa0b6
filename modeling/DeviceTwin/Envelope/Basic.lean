/-
Envelopes: signals as they travel.

An envelope has a topic, headers, a path and five optional fields. It is
made from a signal by `Envelope.ofSignal` and turned back into one by
`Envelope.toSignal`. The criterion of the topic, the presence of a status
and the presence of an action decide the kind of the signal; error
details and the members of a set are kept in the value.
-/
import DeviceTwin.Envelope.Record
import DeviceTwin.ProtocolError

namespace DeviceTwin

/-- A signal as it travels. -/
structure Envelope where
  topic : Topic
  headers : Headers
  path : Pointer
  value : Option Payload
  status : Option Status
  revision : Option Int64
  timestamp : Option Timestamp
  extra : Option Payload
  deriving DecidableEq

namespace Envelope

/-- The envelope with no more than a topic and headers. -/
def bare (topic : Topic) (headers : Headers) : Envelope :=
  ⟨topic, headers, .root, none, none, none, none, none⟩

/-- The correlation id in the headers, if there is one. -/
def correlationId (e : Envelope) : Option String := e.headers.correlationId

-- ============================================================== from signals

/-- The members of a set as a payload. -/
def membersPayload (set : Acknowledgements) : Payload :=
  .ofList (set.members.map fun a => .ofPairs (MemberRecord.ofMember set.entity a).fields)

/-- The envelope of a signal. -/
def ofSignal (s : Signal) : Envelope :=
  let topic := Topic.make s.entity s.group s.channel
  let named := fun criterion => (topic criterion).withAction (SignalType.shortName s.type)
  match s with
  | .command c => { bare (named .commands) c.headers with path := c.path, value := c.value }
  | .response r =>
      { bare (named .commands) r.headers with
        path := r.path, value := r.value, status := some r.status }
  | .error e =>
      { bare (topic .errors) e.headers with
        value := some (.ofPairs e.details.fields), status := some e.status }
  | .acknowledgement a =>
      { bare ((topic .acks).withAction a.label) a.headers with
        value := a.payload, status := some a.status }
  | .acknowledgements set =>
      { bare (topic .acks) set.headers with
        value := some (membersPayload set), status := some set.status }
  | .event e =>
      { bare (named .events) e.headers with
        path := e.path, value := e.value, revision := some e.revision,
        timestamp := e.timestamp, extra := e.extra }

-- ================================================================ to signals

/-- The headers of the signal in an envelope: a topic on the live channel
marks them, unless they name a channel themselves. -/
def signalHeaders (e : Envelope) : Headers :=
  if e.topic.channel = .live ∧ e.headers.contains Headers.channelKey = false then
    e.headers.withChannel .live
  else e.headers

/-- Decodes a payload. -/
def decodePayload {α : Type} (decode : Medium → Nat → Outline → Except DecodeError α)
    (p : Payload) : Except ProtocolError α :=
  match decode .tree 0 p.value.outline with
  | .ok v => .ok v
  | .error e => .error (.malformedValue e)

/-- The field, or else the error that it is missing. -/
def require {α : Type} (name : String) : Option α → Except ProtocolError α
  | some v => .ok v
  | none => .error (.missingField name)

/-- The command or response in an envelope. -/
def toCommand (e : Envelope) : Except ProtocolError Signal := do
  let action ← require "topic action" e.topic.action
  let type := fun criterion => SignalType.ofParts e.topic.group criterion action
  match e.status with
  | some status =>
      return .response
        ⟨type "responses", e.topic.entity, e.path, status, e.value, e.signalHeaders⟩
  | none => return .command ⟨type "commands", e.topic.entity, e.path, e.value, e.signalHeaders⟩

/-- The event in an envelope. -/
def toEvent (e : Envelope) : Except ProtocolError Signal := do
  let action ← require "topic action" e.topic.action
  return .event
    { type := SignalType.ofParts e.topic.group "events" action
      entity := e.topic.entity
      path := e.path
      value := e.value
      revision := e.revision.getD 0
      timestamp := e.timestamp
      extra := e.extra
      headers := e.signalHeaders }

/-- The error in an envelope. -/
def toError (e : Envelope) : Except ProtocolError Signal := do
  let status ← require "status" e.status
  let value ← require "value" e.value
  let details ← decodePayload ErrorDetails.decode value
  return .error ⟨e.topic.group, e.topic.entity, status, details, e.signalHeaders⟩

/-- The members of the set in an envelope. -/
def members (e : Envelope) : Except ProtocolError (List MemberRecord) :=
  match e.value with
  | some value => decodePayload (fun m depth => Outline.asList m depth (MemberRecord.decode m)) value
  | none => .ok []

/-- The acknowledgement or the set of them in an envelope. -/
def toAcknowledgement (e : Envelope) : Except ProtocolError Signal := do
  let status ← require "status" e.status
  match e.topic.action with
  | some label =>
      return .acknowledgement ⟨label, e.topic.entity, status, e.signalHeaders, e.value⟩
  | none =>
      let records ← e.members
      let members := records.map (MemberRecord.toMember e.topic.entity)
      return .acknowledgements ⟨e.topic.entity, status, members, e.signalHeaders⟩

/-- The signal in an envelope. -/
def toSignal (e : Envelope) : Except ProtocolError Signal :=
  match e.topic.criterion with
  | .commands => e.toCommand
  | .events => e.toEvent
  | .errors => e.toError
  | .acks => e.toAcknowledgement

-- ============================================================ the wire record

/-- The fields of an envelope. -/
def shape : Outline.RecordShape :=
  ⟨"Adaptable",
    ["topic", "headers", "path", "value", "status", "revision", "timestamp", "extra"]⟩

/-- The fields with their contents, in order; those without content are left out. -/
def fields (e : Envelope) : List (String × Payload) :=
  ("topic", .text e.topic.text)
    :: headersField e.headers
    ++ ("path", .text e.path.text)
    :: optionalField "value" e.value
    ++ optionalField "status" (e.status.map Status.payload)
    ++ optionalField "revision" (e.revision.map fun n => ⟨.int (.ofInt64 n), trivial⟩)
    ++ optionalField "timestamp" (e.timestamp.map fun t => .text t.text)
    ++ optionalField "extra" e.extra

/-- The envelope as it is written. -/
def record (e : Envelope) : Value := orderedObject e.fields

/-- An envelope as it is read. -/
structure Draft where
  topic : Option Topic := none
  headers : Headers := .empty
  path : Pointer := .root
  value : Option Payload := none
  status : Option Status := none
  revision : Option Int64 := none
  timestamp : Option Timestamp := none
  extra : Option Payload := none

/-- Reads one field. -/
def Draft.read (m : Medium) (depth : Nat) (d : Draft) (i : Nat) (o : Outline) :
    Except DecodeError Draft := do
  match i with
  | 0 => return { d with topic := some (← o.asTopic) }
  | 1 => return { d with headers := ← o.asHeaders m depth }
  | 2 => return { d with path := ← o.asPointer }
  | 3 => return { d with value := ← o.optional (Outline.payload m depth) }
  | 4 => return { d with status := ← o.optional Outline.asStatus }
  | 5 => return { d with revision := ← o.optional Outline.asInt64 }
  | 6 => return { d with timestamp := ← o.optional Outline.asTimestamp }
  | _ => return { d with extra := ← o.optional (Outline.payload m depth) }

/-- Decodes an envelope. -/
def decode (m : Medium) (depth : Nat) (o : Outline) : Except DecodeError Envelope := do
  let (d, missing) ← o.readRecord m shape depth (Draft.read m (depth + 1)) {}
  match d.topic with
  | none => .error (missing 0)
  | some topic =>
      .ok ⟨topic, d.headers, d.path, d.value, d.status, d.revision, d.timestamp, d.extra⟩

end Envelope

end DeviceTwin
