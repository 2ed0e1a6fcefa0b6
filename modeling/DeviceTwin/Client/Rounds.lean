/-
Dispatching while handlers act.

A dispatch reads off once whom an event goes to and then calls these handlers
one after the other. A handler that is being called can do to the registry what
anybody can: register, take registrations out, and dispatch too. A dispatch of
its own is carried through before it goes on, so of the dispatches under way
only the innermost calls anybody.

A dispatch is a round here and is known by its number. What handlers do when
they are called is not fixed: between one call and the next any acts can come,
up to the `finish` of the handler.
-/
import DeviceTwin.Client.Registry

namespace DeviceTwin

/-- A dispatch under way: how many handlers it calls in all, and whom it has
still to call. -/
structure Round (η : Type) where
  number : Nat
  size : Nat
  waiting : List (Delivery η)

/-- A registry with the dispatches under way, the innermost first. -/
structure Rounds (η : Type) where
  registry : Registry η := {}
  underWay : List (Round η) := []
  next : Nat := 0

/-- What running code can do: a handler that is being called, or whoever began
the outermost dispatch. -/
inductive Act (η : Type) where
  | register (entity : Option EntityId) (handler : η)
  | deregister (id : Nat)
  | dispatch (e : Event)
  /-- The handler that is being called is done. -/
  | finish

/-- What comes of it. -/
inductive Notice (η : Type) where
  | registered (r : Registration η)
  /-- Whether the registration was there. -/
  | deregistered (id : Nat) (there : Bool)
  /-- A round calls a handler. -/
  | called (round : Nat) (d : Delivery η)
  /-- A round is over: how many handlers it called. -/
  | returned (round count : Nat)

namespace Rounds

variable {η : Type}

/-- The innermost round calls the next handler, or is over. -/
def goOn (s : Rounds η) : Rounds η × Option (Notice η) :=
  match s.underWay with
  | [] => (s, none)
  | ⟨number, size, []⟩ :: outer => ({ s with underWay := outer }, some (.returned number size))
  | ⟨number, size, d :: waiting⟩ :: outer =>
      ({ s with underWay := ⟨number, size, waiting⟩ :: outer }, some (.called number d))

/-- The state with one more round. -/
def enter (s : Rounds η) (deliveries : List (Delivery η)) : Rounds η :=
  { s with
    underWay := ⟨s.next, deliveries.length, deliveries⟩ :: s.underWay
    next := s.next + 1 }

/-- What an act does, and what comes of it. -/
def act (s : Rounds η) : Act η → Rounds η × Option (Notice η)
  | .register entity handler =>
      let (registry, id) := s.registry.register entity handler
      ({ s with registry }, some (.registered ⟨id, entity, handler⟩))
  | .deregister id =>
      let (registry, there) := s.registry.deregister id
      ({ s with registry }, some (.deregistered id there))
  | .dispatch e => (s.enter (s.registry.deliveries e)).goOn
  | .finish => s.goOn

end Rounds

end DeviceTwin
