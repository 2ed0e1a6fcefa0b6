/-
Handles: commands and signals on one channel.

A handle stands for the twin, the device or the policies. It sends the
commands of things on its own channel and those of policies as they are;
the answer is a response, or a refusal by the backend. Signals can be
sent on the live channel through any handle.
-/
import DeviceTwin.Client.Dispatcher

namespace DeviceTwin

-- ================================================================== refusals

/-- What a refused caller learns: the words of the backend if it is an
error of the backend, otherwise that the signal is none. -/
def CallError.ofRefusal (expected : String) : Signal → CallError
  | .error e => .backend e.status e.details
  | s => .mismatch expected s

/-- A request that is answered by a response and refused by an error. -/
def Request.ask (s : Signal) : Request :=
  { signal := s
    expected := .kind .response
    refusal := .kind .error
    onRefusal := .ofRefusal Kind.error.name }

-- =================================================================== handles

/-- A channel to send on. -/
structure Handle where
  channel : Channel
  deriving DecidableEq

namespace Handle

/-- The handle of the stored counterparts. -/
def twin : Handle := ⟨.twin⟩

/-- The handle of the devices. -/
def live : Handle := ⟨.live⟩

/-- The handle of the policies. -/
def policies : Handle := ⟨.none⟩

/-- The handle of this name. -/
def ofName? : String → Option Handle
  | "twin" => some twin
  | "live" => some live
  | "policies" => some policies
  | _ => none

/-- The request for a command of a thing. -/
def thingRequest (h : Handle) (c : Command) : Request :=
  .ask ((Signal.command c).forChannel h.channel)

/-- The request for a command of a policy. -/
def policyRequest (_ : Handle) (c : Command) : Request := .ask (.command c)

end Handle

namespace Dispatcher

/-- Starts the request for a command of a thing. -/
def askThing (d : Dispatcher) (now : Nat) (fresh : String) (h : Handle) (c : Command) :
    Dispatcher :=
  d.request now fresh (h.thingRequest c)

/-- Starts the request for a command of a policy. -/
def askPolicy (d : Dispatcher) (now : Nat) (fresh : String) (h : Handle) (c : Command) :
    Dispatcher :=
  d.request now fresh (h.policyRequest c)

/-- Starts the emission of a signal on the live channel. -/
def emitLive (d : Dispatcher) (now : Nat) (s : Signal) : Dispatcher :=
  d.emit now (s.forChannel .live)

end Dispatcher

end DeviceTwin
