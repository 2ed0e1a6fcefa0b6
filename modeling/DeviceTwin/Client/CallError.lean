/-
How calls fail, and how their replies are interpreted.

A call names the kind of signal that it expects and the kind by which it
is refused. A reply of the refusing kind comes first; a set of
acknowledgements is resolved into a response; then the signal is what
was expected or it is not.
-/
import DeviceTwin.Client.Correlator
import DeviceTwin.Client.Outbox
import DeviceTwin.Outgoing
import DeviceTwin.Resolution

namespace DeviceTwin

-- ==================================================================== errors

/-- Why a call failed. -/
inductive CallError where
  | timeout (correlationId : String) (span : Span)
  | typeMismatch (expected actual type : String)
  | backend (status : Status) (details : ErrorDetails)
  | acknowledgementsFailed (set : Acknowledgements)
  | notPersisted
  | alreadyPending (correlationId : String)
  | closed
  | transport (e : TransportError)
  | protocol (e : ProtocolError)

namespace CallError

/-- The error in words. -/
def message : CallError → String
  | timeout id span => "no reply for correlation id '" ++ id ++ "' within " ++ span.text
  | typeMismatch expected actual type =>
      "expected " ++ expected ++ ", got " ++ actual ++ " (" ++ type ++ ")"
  | backend status details =>
      "backend rejected request with " ++ status.text ++ ": " ++ details.message
        ++ " (" ++ details.code ++ ")"
  | acknowledgementsFailed set => ResolveError.failedMessage set
  | notPersisted =>
      "no acknowledgement for label '" ++ persistedLabel ++ "' received; request '"
        ++ persistedLabel ++ "' whenever the response is processed by the client"
  | alreadyPending id => "a request with correlation id '" ++ id ++ "' is already pending"
  | closed => "client is shut down"
  | transport e => "transport failure: " ++ e.message
  | protocol e => "protocol failure: " ++ e.message

/-- A subscription that ended without a message, as its caller sees it. -/
def ofReplyError : ReplyError → CallError
  | .timeout key span => timeout key span
  | .alreadyPending key => alreadyPending key
  | .closed => closed

/-- A set that stands for no response, as its caller sees it. -/
def ofResolveError : ResolveError → CallError
  | .failed set => acknowledgementsFailed set
  | .notPersisted => notPersisted

/-- The error for a signal that is not what was expected. -/
def mismatch (expected : String) (s : Signal) : CallError :=
  typeMismatch expected s.kind.name s.type

end CallError

-- ============================================================ interpretation

/-- A request with what its caller makes of replies. -/
structure Request where
  signal : Signal
  expected : Expected
  refusal : Expected
  onRefusal : Signal → CallError

namespace Request

/-- The request as it leaves, with `fresh` as its correlation id if it has none. -/
def prepared (r : Request) (fresh : String) : Request :=
  { r with signal := r.signal.prepared fresh }

/-- The signal that a reply stands for: a set of acknowledgements stands
for a response. -/
def synthesize (request : Signal) : Signal → Except CallError Signal
  | .acknowledgements set =>
      match set.resolve request with
      | .ok r => .ok (.response r)
      | .error e => .error (.ofResolveError e)
  | s => .ok s

/-- What a caller leaves behind for the reply: one continuation for the signal
that it expects, one for the signal by which it is refused. -/
structure Continuations (m : Type → Type) (ρ : Type) where
  onSuccess : Signal → m ρ
  onRefusal : Signal → m CallError

/-- Interprets a reply and runs the continuation that it is meant for, if
there is one. -/
def interpretWith {m : Type → Type} [Monad m] {ρ : Type} (r : Request) (k : Continuations m ρ)
    (reply : Signal) : m (Except CallError ρ) :=
  if r.refusal.accepts reply then do
    return .error (← k.onRefusal reply)
  else match synthesize r.signal reply with
    | .error e => return .error e
    | .ok s =>
        if r.expected.accepts s then do return .ok (← k.onSuccess s)
        else return .error (.mismatch r.expected.name s)

/-- What a reply means to a caller who takes the expected signal as it is. -/
def interpret (r : Request) (reply : Signal) : Except CallError Signal :=
  (r.interpretWith (m := Id) ⟨pure, fun s => pure (r.onRefusal s)⟩ reply).run

/-- What the end of its subscription means to the caller. -/
def conclude (r : Request) : Outcome Envelope → Except CallError Signal
  | .error e => .error (.ofReplyError e)
  | .ok envelope =>
      match envelope.toSignal with
      | .ok s => r.interpret s
      | .error e => .error (.protocol e)

end Request

end DeviceTwin
