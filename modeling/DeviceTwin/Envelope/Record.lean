/-
The records inside envelopes: error details and members of sets.

Both are written as objects of their fields. On their own the fields
come in the order of the record; inside a payload they come, like those
of any payload, in the order of their keys. A field without content is
left out. Reading takes the forms that `Outline.readRecord` describes.
-/
import DeviceTwin.Outline.Decode
import DeviceTwin.Signal

namespace DeviceTwin

-- ==================================================================== fields

/-- Headers as a payload. -/
def Headers.payload (h : Headers) : Payload :=
  .ofPairs (h.entries.map fun e => (e.1, .text e.2))

/-- A status as a payload. -/
def Status.payload (s : Status) : Payload := ⟨.int (.ofUInt16 s.code), trivial⟩

/-- A field that is left out if it has no content. -/
def optionalField (name : String) (content : Option Payload) : List (String × Payload) :=
  (content.map fun p => (name, p)).toList

/-- Headers, left out if there are none. -/
def headersField (h : Headers) : List (String × Payload) :=
  if h.isEmpty then [] else [("headers", h.payload)]

/-- The fields of a record in their order. -/
def orderedObject (fields : List (String × Payload)) : Value :=
  .object (fields.map fun e => (e.1, e.2.value))

namespace Outline

/-- A status. -/
def asStatus (o : Outline) : Except DecodeError Status := o.asUInt16.map Status.mk

/-- The identifier of an entity. -/
def asEntityId (o : Outline) : Except DecodeError EntityId := do
  let s ← o.asText
  match EntityId.parse? s with
  | some id => .ok id
  | none => .error (.entity s)

/-- A topic. -/
def asTopic (o : Outline) : Except DecodeError Topic := do
  match Topic.parse (← o.asText) with
  | .ok t => .ok t
  | .error e => .error (.topic e)

/-- A path. -/
def asPointer (o : Outline) : Except DecodeError Pointer := o.asText.map Pointer.parse

/-- A point in time. -/
def asTimestamp : Outline → Except DecodeError Timestamp
  | .text s =>
      match Timestamp.parse? s with
      | some t => .ok t
      | none => .error .unreadable
  | o => .error (o.mismatch "an RFC 3339 formatted date and time string")

end Outline

-- ============================================================= error details

namespace ErrorDetails

/-- The fields of error details. -/
def shape : Outline.RecordShape := ⟨"ErrorPayload", ["error", "message", "description"]⟩

/-- The fields with their contents. -/
def fields (e : ErrorDetails) : List (String × Payload) :=
  [("error", .text e.code), ("message", .text e.message)]
    ++ optionalField "description" (e.description.map .text)

/-- Error details as they are read. -/
structure Draft where
  code : Option String := none
  message : Option String := none
  description : Option String := none

/-- Reads one field. -/
def Draft.read (d : Draft) (i : Nat) (o : Outline) : Except DecodeError Draft := do
  match i with
  | 0 => return { d with code := some (← o.asText) }
  | 1 => return { d with message := some (← o.asText) }
  | _ => return { d with description := ← o.optional Outline.asText }

/-- Decodes error details. -/
def decode (m : Medium) (depth : Nat) (o : Outline) : Except DecodeError ErrorDetails := do
  let (d, missing) ← o.readRecord m shape depth Draft.read {}
  match d.code, d.message with
  | none, _ => .error (missing 0)
  | _, none => .error (missing 1)
  | some code, some message => .ok ⟨code, message, d.description⟩

end ErrorDetails

-- ============================================================ members of sets

/-- A member of a set of acknowledgements as it is written: its entity is
left out if it is that of the set. -/
structure MemberRecord where
  label : String
  entity : Option EntityId
  status : Status
  headers : Headers
  payload : Option Payload
  deriving DecidableEq

namespace MemberRecord

/-- The fields of a member. -/
def shape : Outline.RecordShape :=
  ⟨"WireAcknowledgement", ["label", "entityId", "status", "headers", "payload"]⟩

/-- The fields with their contents. -/
def fields (r : MemberRecord) : List (String × Payload) :=
  ("label", .text r.label)
    :: optionalField "entityId" (r.entity.map fun id => .text id.text)
    ++ ("status", r.status.payload)
    :: headersField r.headers
    ++ optionalField "payload" r.payload

/-- A member as it is read. -/
structure Draft where
  label : Option String := none
  entity : Option EntityId := none
  status : Option Status := none
  headers : Headers := .empty
  payload : Option Payload := none

/-- Reads one field. -/
def Draft.read (m : Medium) (depth : Nat) (d : Draft) (i : Nat) (o : Outline) :
    Except DecodeError Draft := do
  match i with
  | 0 => return { d with label := some (← o.asText) }
  | 1 => return { d with entity := ← o.optional Outline.asEntityId }
  | 2 => return { d with status := some (← o.asStatus) }
  | 3 => return { d with headers := ← o.asHeaders m depth }
  | _ => return { d with payload := ← o.optional (Outline.payload m depth) }

/-- Decodes a member. -/
def decode (m : Medium) (depth : Nat) (o : Outline) : Except DecodeError MemberRecord := do
  let (d, missing) ← o.readRecord m shape depth (Draft.read m (depth + 1)) {}
  match d.label, d.status with
  | none, _ => .error (missing 0)
  | _, none => .error (missing 2)
  | some label, some status => .ok ⟨label, d.entity, status, d.headers, d.payload⟩

/-- The record of a member in a set about `entity`. -/
def ofMember (entity : EntityId) (a : Acknowledgement) : MemberRecord :=
  ⟨a.label, if a.entity = entity then none else some a.entity, a.status, a.headers, a.payload⟩

/-- The member that a record stands for in a set about `entity`. -/
def toMember (entity : EntityId) (r : MemberRecord) : Acknowledgement :=
  ⟨r.label, r.entity.getD entity, r.status, r.headers, r.payload⟩

end MemberRecord

end DeviceTwin
