/-
Signals: the messages of the protocol.

A signal is a command, a response to one, an error, an acknowledgement,
a set of acknowledgements or an event. All have an entity and headers;
the types of errors and acknowledgements are fixed, those of the others
are texts of their own. `Kind` names the six, and `Expected` the seven
things that a caller can ask for: one of the kinds, or any signal.
-/
import DeviceTwin.Acknowledgement
import DeviceTwin.Pointer
import DeviceTwin.SignalType
import DeviceTwin.Timestamp

namespace DeviceTwin

-- ================================================================== contents

/-- A request to an entity. -/
structure Command where
  type : String
  entity : EntityId
  path : Pointer
  value : Option Payload
  headers : Headers
  deriving DecidableEq

/-- A reply to a command that was carried out. -/
structure CommandResponse where
  type : String
  entity : EntityId
  path : Pointer
  status : Status
  value : Option Payload
  headers : Headers
  deriving DecidableEq

/-- What went wrong, in words of the backend. -/
structure ErrorDetails where
  code : String
  message : String
  description : Option String
  deriving DecidableEq

/-- A reply to a command that failed. -/
structure ErrorResponse where
  group : Group
  entity : EntityId
  status : Status
  details : ErrorDetails
  headers : Headers
  deriving DecidableEq

/-- The news of a change to an entity. -/
structure Event where
  type : String
  entity : EntityId
  path : Pointer
  value : Option Payload
  revision : Int64
  timestamp : Option Timestamp
  extra : Option Payload
  headers : Headers
  deriving DecidableEq

-- =================================================================== signals

/-- A message of the protocol. -/
inductive Signal where
  | command (c : Command)
  | response (r : CommandResponse)
  | error (e : ErrorResponse)
  | acknowledgement (a : Acknowledgement)
  | acknowledgements (set : Acknowledgements)
  | event (e : Event)
  deriving DecidableEq

/-- The six kinds of signals. -/
inductive Kind where
  | command
  | response
  | error
  | acknowledgement
  | acknowledgements
  | event
  deriving DecidableEq

/-- What a caller can ask for. -/
inductive Expected where
  | kind (k : Kind)
  | any
  deriving DecidableEq

namespace Kind

/-- The name of a kind in messages. -/
def name : Kind → String
  | command => "Command"
  | response => "CommandResponse"
  | error => "ErrorResponse"
  | acknowledgement => "Acknowledgement"
  | acknowledgements => "Acknowledgements"
  | event => "Event"

/-- The kind of this name. -/
def ofName? : String → Option Kind
  | "Command" => some command
  | "CommandResponse" => some response
  | "ErrorResponse" => some error
  | "Acknowledgement" => some acknowledgement
  | "Acknowledgements" => some acknowledgements
  | "Event" => some event
  | _ => none

end Kind

namespace Event

/-- The name of an event, such as attributeModified. -/
def name (e : Event) : String := SignalType.shortName e.type

end Event

namespace Signal

/-- The kind of a signal. -/
def kind : Signal → Kind
  | command _ => .command
  | response _ => .response
  | error _ => .error
  | acknowledgement _ => .acknowledgement
  | acknowledgements _ => .acknowledgements
  | event _ => .event

/-- The entity of a signal. -/
def entity : Signal → EntityId
  | command c => c.entity
  | response r => r.entity
  | error e => e.entity
  | acknowledgement a => a.entity
  | acknowledgements set => set.entity
  | event e => e.entity

/-- The headers of a signal. -/
def headers : Signal → Headers
  | command c => c.headers
  | response r => r.headers
  | error e => e.headers
  | acknowledgement a => a.headers
  | acknowledgements set => set.headers
  | event e => e.headers

/-- The signal with other headers. -/
def withHeaders (h : Headers) : Signal → Signal
  | command c => command { c with headers := h }
  | response r => response { r with headers := h }
  | error e => error { e with headers := h }
  | acknowledgement a => acknowledgement { a with headers := h }
  | acknowledgements set => acknowledgements { set with headers := h }
  | event e => event { e with headers := h }

@[simp] theorem headers_withHeaders (h : Headers) (s : Signal) : (s.withHeaders h).headers = h := by
  cases s <;> rfl

/-- The type of a signal. -/
def type : Signal → String
  | command c => c.type
  | response r => r.type
  | error e => e.group.name ++ ".errors"
  | acknowledgement a => "things.acks:" ++ a.label
  | acknowledgements _ => "things.acks"
  | event e => e.type

/-- The path of a signal; errors and acknowledgements are about the whole entity. -/
def path : Signal → Pointer
  | command c => c.path
  | response r => r.path
  | event e => e.path
  | error _ | acknowledgement _ | acknowledgements _ => .root

/-- The group of a signal: things if its type names none. -/
def group : Signal → Group
  | error e => e.group
  | acknowledgement _ | acknowledgements _ => .things
  | s => (SignalType.group? s.type).getD .things

/-- The channel of a signal. -/
def channel (s : Signal) : Channel := s.headers.channel

/-- The correlation id of a signal. -/
def correlationId (s : Signal) : Option String := s.headers.correlationId

end Signal

namespace Expected

/-- The name of an expectation in messages. -/
def name : Expected → String
  | kind k => k.name
  | any => "Signal"

/-- The expectation of this name. -/
def ofName? : String → Option Expected
  | "Signal" => some any
  | s => (Kind.ofName? s).map kind

/-- Whether a signal is what was asked for. -/
def accepts : Expected → Signal → Bool
  | kind k, s => s.kind = k
  | any, _ => true

end Expected

end DeviceTwin
