/-
Who is told of changes.

A registration has an identifier that is never given out again, and is
for all entities or for one. An event that describes a change goes to
the registrations that are there when it is dispatched and that are for
its entity, in the order in which they were made; `deliveries` is that
list. What a handler does when it is called, even to the registry, comes
after and does not change the list.
-/
import DeviceTwin.Change

namespace DeviceTwin

/-- A handler with what it is for. -/
structure Registration (η : Type) where
  id : Nat
  entity : Option EntityId
  handler : η

/-- Whether a registration is for an entity. -/
def Registration.isFor {η : Type} (r : Registration η) (entity : EntityId) : Bool :=
  match r.entity with
  | some e => e = entity
  | none => true

/-- A change on its way to a handler. -/
structure Delivery (η : Type) where
  handler : η
  change : Change

/-- The registrations in the order in which they were made. -/
structure Registry (η : Type) where
  registrations : List (Registration η) := []
  nextId : Nat := 1

namespace Registry

variable {η : Type}

/-- The number of registrations. -/
def size (r : Registry η) : Nat := r.registrations.length

/-- Whether there are no registrations. -/
def isEmpty (r : Registry η) : Bool := r.registrations.isEmpty

/-- Registers a handler, for one entity or for all: its identifier. -/
def register (r : Registry η) (entity : Option EntityId) (handler : η) : Registry η × Nat :=
  ({ registrations := r.registrations ++ [⟨r.nextId, entity, handler⟩], nextId := r.nextId + 1 },
    r.nextId)

/-- Takes a registration out: whether it was there. -/
def deregister (r : Registry η) (id : Nat) : Registry η × Bool :=
  ({ r with registrations := r.registrations.filter (·.id != id) },
    r.registrations.any (·.id == id))

/-- The registrations that a change goes to. -/
def targets (r : Registry η) (change : Change) : List (Registration η) :=
  r.registrations.filter (·.isFor change.entity)

/-- Who is called for an event, in order, and with what. -/
def deliveries (r : Registry η) (e : Event) : List (Delivery η) :=
  match Change.ofEvent? e with
  | some change => (r.targets change).map fun t => ⟨t.handler, change⟩
  | none => []

end Registry

end DeviceTwin
