/-
Changes: what an event says about its entity.

An event describes a change if its name ends in one of four words. The
change carries the data of the event and can be moved to another path or
enriched; it is full if it is about the whole entity, else partial.
-/
import DeviceTwin.RequestedAcks
import DeviceTwin.Signal

namespace DeviceTwin

/-- What happened to an entity or a part of it. -/
inductive ChangeAction where
  | created
  | updated
  | merged
  | deleted
  deriving DecidableEq

namespace ChangeAction

/-- The name of an action. -/
def name : ChangeAction → String
  | created => "Created"
  | updated => "Updated"
  | merged => "Merged"
  | deleted => "Deleted"

/-- The action that the name of an event ends in. -/
def ofEventName? (name : String) : Option ChangeAction :=
  let endsIn := fun ending => Text.endsWith (String.toList ending) name.toList
  if endsIn "Created" then some created
  else if endsIn "Modified" then some updated
  else if endsIn "Merged" then some merged
  else if endsIn "Deleted" then some deleted
  else none

end ChangeAction

/-- A change to an entity. -/
structure Change where
  action : ChangeAction
  entity : EntityId
  path : Pointer
  value : Option Payload
  revision : Int64
  timestamp : Option Timestamp
  extra : Option Payload
  headers : Headers
  deriving DecidableEq

namespace Change

/-- The change that an event describes, if it describes one. -/
def ofEvent? (e : Event) : Option Change :=
  (ChangeAction.ofEventName? e.name).map fun action =>
    ⟨action, e.entity, e.path, e.value, e.revision, e.timestamp, e.extra, e.headers⟩

/-- The labels that the sender wants acknowledged. -/
def requestedAcks (c : Change) : List String := c.headers.requestedAcks

/-- Whether the change is about the whole entity. -/
def isFull (c : Change) : Bool := c.path.isRoot

/-- Whether the change is about a part of the entity. -/
def isPartial (c : Change) : Bool := !c.isFull

/-- The change with other enrichment. -/
def withExtra (c : Change) (extra : Option Payload) : Change := { c with extra := extra }

/-- The change at another path. -/
def withPathAndValue (c : Change) (path : Pointer) (value : Option Payload) : Change :=
  { c with path := path, value := value }

/-- Whether two optional payloads agree. -/
def payloadsAgree : Option Payload → Option Payload → Bool
  | some a, some b => a.agrees b
  | none, none => true
  | _, _ => false

/-- The same change but for the signs of floating-point zeros. -/
def agrees (a b : Change) : Bool :=
  payloadsAgree a.value b.value && payloadsAgree a.extra b.extra
    && decide ({ a with value := none, extra := none } = { b with value := none, extra := none })

end Change

end DeviceTwin
