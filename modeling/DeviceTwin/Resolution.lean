/-
Acknowledgement sets resolved into responses.

A command whose sender asked for acknowledgements is answered by a set
of them. The set stands for a response if it did not fail as a whole and
has a member that says that the change was stored: the response then
takes the entity, status, headers and payload of the first such member,
and its path and type from the request.
-/
import DeviceTwin.Signal

namespace DeviceTwin

/-- Why a set stands for no response. -/
inductive ResolveError where
  | failed (set : Acknowledgements)
  | notPersisted
  deriving DecidableEq

namespace ResolveError

/-- The message for a set with an overall error. -/
def failedMessage (set : Acknowledgements) : String :=
  "acknowledgements failed with overall status " ++ set.status.text

/-- The error in words. -/
def message : ResolveError → String
  | failed set => failedMessage set
  | notPersisted => "no acknowledgement for label '" ++ persistedLabel ++ "' received"

end ResolveError

/-- The response to `request` that a set stands for. -/
def Acknowledgements.resolve (set : Acknowledgements) (request : Signal) :
    Except ResolveError CommandResponse :=
  if set.isFailed then .error (.failed set)
  else match set.get? persistedLabel with
    | none => .error .notPersisted
    | some stored => .ok
        { type := SignalType.response request.type
          entity := stored.entity
          path := request.path
          status := stored.status
          value := stored.payload
          headers := stored.headers }

end DeviceTwin
