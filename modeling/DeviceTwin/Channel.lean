/-
Channels and groups: where a signal goes and what it is about.

A signal on the twin channel goes to the stored counterpart of a device,
one on the live channel to the device itself; signals about policies
have no channel. Each member of either kind has one name, used in
headers, topics and signal types.
-/

namespace DeviceTwin

-- ================================================================= channels

/-- Where a signal is routed. -/
inductive Channel where
  | twin
  | live
  | none
  deriving DecidableEq

namespace Channel

/-- The name in headers and topics. -/
def name : Channel → String
  | twin => "twin"
  | live => "live"
  | none => "none"

/-- The channel of this name. -/
def ofName? : String → Option Channel
  | "twin" => some twin
  | "live" => some live
  | "none" => some none
  | _ => Option.none

@[simp] theorem ofName?_name (c : Channel) : ofName? c.name = some c := by
  cases c <;> rfl

theorem name_of_ofName? {s : String} {c : Channel} (h : ofName? s = some c) : c.name = s := by
  unfold ofName? at h
  split at h <;> cases h <;> rfl

end Channel

-- =================================================================== groups

/-- The kind of entity that a signal is about. -/
inductive Group where
  | things
  | policies
  deriving DecidableEq

namespace Group

/-- The name in topics and signal types. -/
def name : Group → String
  | things => "things"
  | policies => "policies"

/-- The group of this name. -/
def ofName? : String → Option Group
  | "things" => some things
  | "policies" => some policies
  | _ => none

@[simp] theorem ofName?_name (g : Group) : ofName? g.name = some g := by
  cases g <;> rfl

theorem name_of_ofName? {s : String} {g : Group} (h : ofName? s = some g) : g.name = s := by
  unfold ofName? at h
  split at h <;> cases h <;> rfl

end Group

end DeviceTwin
