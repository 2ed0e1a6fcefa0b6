/-
Acknowledgements: confirmations under a label, and sets of them.

An acknowledgement says with which status an entity was brought to the
point that its label names. A set collects several of them in the order
in which they were reported, under one overall status. `aggregate` is
the rule for that status: a single member lends its own, a set of
successes is a success, and anything else is a failed dependency.
-/
import DeviceTwin.EntityId
import DeviceTwin.Headers
import DeviceTwin.Status
import DeviceTwin.Value

namespace DeviceTwin

/-- The label for a change that was stored in the twin. -/
def persistedLabel : String := "twin-persisted"

/-- One confirmation. -/
structure Acknowledgement where
  label : String
  entity : EntityId
  status : Status
  headers : Headers
  payload : Option Payload
  deriving DecidableEq

/-- Several confirmations under an overall status. -/
structure Acknowledgements where
  entity : EntityId
  status : Status
  members : List Acknowledgement
  headers : Headers
  deriving DecidableEq

namespace Acknowledgements

/-- The overall status of some members. -/
def overallStatus : List Acknowledgement → Status
  | [single] => single.status
  | many => if many.all (·.status.isSuccess) then .ok else .failedDependency

/-- The set of some members with the overall status that follows from them. -/
def aggregate (entity : EntityId) (members : List Acknowledgement) (headers : Headers) :
    Acknowledgements :=
  ⟨entity, overallStatus members, members, headers⟩

/-- Whether the overall status is an error of the client or the server. -/
def isFailed (set : Acknowledgements) : Bool := set.status.isFailure

/-- The first member with a label. -/
def get? (set : Acknowledgements) (label : String) : Option Acknowledgement :=
  set.members.find? (·.label == label)

end Acknowledgements

end DeviceTwin
