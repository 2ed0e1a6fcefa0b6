/-
What the records inside envelopes are made of, field by field.

A value is error details or the member of a set if it `Spells` them: if it is a
record whose fields have the right contents. The two relations speak of the
value alone. A field that is not optional must be there; an optional one may be
missing or null, headers may be missing but not null, and nothing else in the
value matters. Decoding the value gives exactly what it spells
(`ErrorDetails.decode_eq_ok`, `MemberRecord.decode_eq_ok`), in particular it
fails if the value spells nothing. The values of envelopes follow: that of an
error spells its details, that of a set is a list whose items spell the members
(`Envelope.details_eq_ok`, `Envelope.members_eq_ok`).
-/
import DeviceTwin.Envelope.Basic
import DeviceTwin.Proofs.Outline.Field

namespace DeviceTwin

/-- A number fits into 16 bits if it is a number of 16 bits. -/
theorem Integer.toUInt16?_eq_some {n : Integer} {c : UInt16} :
    n.toUInt16? = some c ↔ n = .ofUInt16 c := by
  constructor
  · intro h
    unfold toUInt16? at h
    split at h
    case isTrue hrange =>
      obtain rfl := Option.some.inj h
      obtain ⟨val, lower, upper⟩ := n
      simp only at hrange
      have hsize : val.toNat < UInt16.size := by
        simp only [UInt16.size]
        omega
      simp only [ofUInt16, ofNat, Integer.mk.injEq]
      rw [UInt16.toNat_ofNat_of_lt' hsize, Int.toNat_of_nonneg hrange.1]
    case isFalse => cases h
  · intro h
    rw [h, toUInt16?_ofUInt16]

/-- What an optional field says: nothing if it is missing or null. -/
inductive Value.Optional {α : Type} (Spells : Value → α → Prop) : Option Value → Option α → Prop
  | missing : Optional Spells none none
  | null : Optional Spells (some .null) none
  | content {w : Value} {a : α} (hne : w ≠ .null) (h : Spells w a) :
      Optional Spells (some w) (some a)

namespace Outline

-- =================================================================== contents

variable {w : Value} {content : Option Value}

/-- A text is read from a text only. -/
theorem asText_outline {s : String} : w.outline.asText = .ok s ↔ w = .text s := by
  cases w <;> simp [Value.outline, asText]

/-- A status is read from its code only. -/
theorem asStatus_outline {s : Status} :
    w.outline.asStatus = .ok s ↔ w = .int (.ofUInt16 s.code) := by
  cases w with
  | int n =>
      rw [Value.int.injEq, ← Integer.toUInt16?_eq_some]
      simp only [Value.outline, asStatus, asUInt16]
      cases n.toUInt16? with
      | none => simp [Except.map]
      | some c =>
          obtain ⟨code⟩ := s
          simp [Except.map]
  | null | bool | float | text | list | object =>
      simp [Value.outline, asStatus, asUInt16, Except.map]

/-- An entity id is read from the texts that are parsed as it. -/
theorem asEntityId_outline {id : EntityId} :
    w.outline.asEntityId = .ok id ↔ ∃ s, w = .text s ∧ EntityId.parse? s = some id := by
  unfold asEntityId
  rw [Result.bind_eq_ok]
  constructor
  · intro h
    obtain ⟨s, hs, h⟩ := h
    refine ⟨s, asText_outline.mp hs, ?_⟩
    cases hid : EntityId.parse? s with
    | none =>
        rw [hid] at h
        cases h
    | some id' =>
        rw [hid] at h
        exact congrArg some (Except.ok.inj h)
  · intro h
    obtain ⟨s, hw, hid⟩ := h
    refine ⟨s, asText_outline.mpr hw, ?_⟩
    rw [hid]

/-- A payload is read from its own value only. -/
theorem payload_outline_tree (hc : w.Canonical) {depth : Nat} {p : Payload} :
    payload .tree depth w.outline = .ok p ↔ w = p.value := by
  constructor
  · intro h
    have hvalue := value_of_payload h
    rw [value_outline hc (Medium.allows_tree _ _)] at hvalue
    exact Except.ok.inj hvalue
  · intro h
    rw [h]
    exact payload_outline p (Medium.allows_tree _ _)

/-- Texts under keys are read as the pairs that they are. -/
theorem mapM_outlineEntries {entries : List (String × Value)} {pairs : List (String × String)} :
    ((Value.outlineEntries entries).mapM fun (key, item) => do
        let key ← keyText key
        let item ← item.asText
        return (key, item)) = .ok pairs
      ↔ entries = pairs.map fun e => (e.1, .text e.2) := by
  rw [Result.mapM_eq_ok, Value.outlineEntries_eq_map, List.forall₂_map_left_iff]
  have hpair : ∀ (e : String × Value) (p : String × String),
      (do
        let key ← keyText (.text e.1)
        let item ← e.2.outline.asText
        return (key, item)) = Except.ok p ↔ e = (p.1, .text p.2) := by
    intro e p
    constructor
    · intro h
      obtain ⟨k, hk, h⟩ := Result.bind_eq_ok.mp h
      obtain ⟨text, htext, h⟩ := Result.bind_eq_ok.mp h
      obtain rfl := Except.ok.inj hk
      obtain rfl := Except.ok.inj h
      rw [← asText_outline.mp htext]
    · intro h
      rw [h]
      rfl
  simp only [hpair]
  rw [← List.forall₂_eq_eq_eq, List.forall₂_map_right_iff]

/-- Headers are read from the object of their texts only. -/
theorem asHeaders_outline (hc : w.Canonical) {depth : Nat} {h : Headers} :
    asHeaders .tree depth w.outline = .ok h
      ↔ w = .object (h.entries.map fun e => (e.1, .text e.2)) := by
  constructor
  · intro hread
    cases w with
    | object entries =>
        obtain ⟨_, -, hread⟩ := Result.bind_eq_ok.mp hread
        obtain ⟨pairs, hpairs, hread⟩ := Result.bind_eq_ok.mp hread
        obtain rfl := Except.ok.inj hread
        obtain rfl := mapM_outlineEntries.mp hpairs
        have hsorted : Keyed.Sorted pairs := by
          have hsorted := hc.1
          rwa [Keyed.Sorted, List.pairwise_map] at hsorted
        rw [Headers.ofPairs]
        simp only [Keyed.ofList_of_sorted hsorted]
    | null | bool | int | float | text | list => cases hread
  · intro hw
    rw [hw, ← h.value_payload]
    exact asHeaders_payload h (Medium.allows_tree _ _)

/-- An optional field is read as what it says. -/
theorem fills_optional {α : Type} {decode : Outline → Except DecodeError α}
    {Spells : Value → α → Prop} {a? : Option α}
    (hspells : ∀ w ∈ content, ∀ a, decode w.outline = .ok a ↔ Spells w a) :
    Fills (optional decode) none a? content ↔ Value.Optional Spells content a? := by
  constructor
  · intro h
    cases content with
    | none =>
        obtain rfl := h
        exact .missing
    | some w =>
        cases a? with
        | none =>
            obtain rfl := Value.outline_eq_null.mp (optional_eq_none.mp h)
            exact .null
        | some a =>
            obtain ⟨hne, ha⟩ := optional_eq_some h
            exact .content (fun hw => hne (Value.outline_eq_null.mpr hw))
              ((hspells w rfl a).mp ha)
  · intro h
    cases h with
    | missing => rfl
    | null => rfl
    | content hne ha =>
        exact optional_eq_ok ((hspells _ rfl _).mpr ha) fun hnull =>
          hne (Value.outline_eq_null.mp hnull)

/-- A field that must be there is read as what it says. -/
theorem fills_required {α : Type} {decode : Outline → Except DecodeError α} {a : α} :
    Fills (fun o => (decode o).map some) none (some a) content
      ↔ ∃ w, content = some w ∧ decode w.outline = .ok a := by
  cases content with
  | none => simp [Fills]
  | some w => simp [Fills, Result.map_eq_ok]

/-- A text that must be there is there as a text. -/
theorem fills_text {s : String} :
    Fills (fun o => o.asText.map some) none (some s) content ↔ content = some (.text s) := by
  simp only [fills_required, asText_outline, exists_eq_right]

end Outline

open Outline (Slot Fills)

-- ============================================================= error details

namespace ErrorDetails

/-- A value spells error details: a code and a message, and perhaps a
description, which are texts. -/
structure Spells (v : Value) (e : ErrorDetails) : Prop where
  record : v.IsRecord shape
  code : v.field? shape "error" = some (.text e.code)
  message : v.field? shape "message" = some (.text e.message)
  description : Value.Optional (fun w s => w = .text s) (v.field? shape "description")
    e.description

/-- Reading a field leaves what is made of the others alone. -/
theorem Draft.read_keeps {d d' : Draft} {i : Nat} {o : Outline}
    (hlt : i < shape.fields.length) (h : Draft.read d i o = .ok d') :
    (i ≠ 0 → d'.code = d.code) ∧ (i ≠ 1 → d'.message = d.message)
      ∧ (i ≠ 2 → d'.description = d.description) := by
  match i with
  | 0 | 1 | 2 =>
      obtain ⟨_, -, h⟩ := Result.bind_eq_ok.mp h
      obtain rfl := Except.ok.inj h
      simp
  | i + 3 => exact absurd hlt (by simp [shape])

/-- The code has its own place in the draft. -/
theorem slot_code : Slot shape Draft.read "error" (fun o => o.asText.map some) Draft.code := by
  refine .of_set (fun d code => { d with code }) (by decide) (fun d o => ?_) (fun _ _ => rfl)
    fun d i o d' hlt hne h => (Draft.read_keeps hlt h).1 hne
  show (o.asText >>= fun code => pure { d with code := some code }) = _
  cases o.asText <;> rfl

/-- The message has its own place in the draft. -/
theorem slot_message :
    Slot shape Draft.read "message" (fun o => o.asText.map some) Draft.message := by
  refine .of_set (fun d message => { d with message }) (by decide) (fun d o => ?_)
    (fun _ _ => rfl) fun d i o d' hlt hne h => (Draft.read_keeps hlt h).2.1 hne
  show (o.asText >>= fun message => pure { d with message := some message }) = _
  cases o.asText <;> rfl

/-- The description has its own place in the draft. -/
theorem slot_description :
    Slot shape Draft.read "description" (Outline.optional Outline.asText) Draft.description := by
  refine .of_set (fun d description => { d with description }) (by decide) (fun d o => ?_)
    (fun _ _ => rfl) fun d i o d' hlt hne h => (Draft.read_keeps hlt h).2.2 hne
  show (o.optional Outline.asText >>= fun description => pure { d with description }) = _
  cases o.optional Outline.asText <;> rfl

/-- The description is read as what it says. -/
theorem fills_description {content : Option Value} {description : Option String} :
    Fills (Outline.optional Outline.asText) none description content
      ↔ Value.Optional (fun w s => w = .text s) content description :=
  Outline.fills_optional fun _ _ _ => Outline.asText_outline

/-- A payload is decoded as the error details that it spells. -/
theorem decode_eq_ok {v : Value} (hc : v.Canonical) {depth : Nat} {e : ErrorDetails} :
    decode .tree depth v.outline = .ok e ↔ Spells v e := by
  have hshape : shape.fields.Nodup := by decide
  constructor
  · intro h
    obtain ⟨⟨d, missing⟩, hrecord, h⟩ := Result.bind_eq_ok.mp h
    obtain ⟨hv, hread⟩ := (Outline.exists_readRecord hc).mp ⟨missing, hrecord⟩
    have hcode := slot_code.fills hc hshape hv hread
    have hmessage := slot_message.fills hc hshape hv hread
    have hdescription := slot_description.fills hc hshape hv hread
    simp only at h
    split at h
    case h_3 code message hcode' hmessage' =>
      obtain rfl := Except.ok.inj h
      rw [hcode'] at hcode
      rw [hmessage'] at hmessage
      exact ⟨hv, Outline.fills_text.mp hcode, Outline.fills_text.mp hmessage,
        fills_description.mp hdescription⟩
    case h_1 | h_2 => cases h
  · intro h
    have hcode := Outline.fills_text.mpr h.code
    have hmessage := Outline.fills_text.mpr h.message
    have hdescription := fills_description.mpr h.description
    have hfields : ∀ name ∈ shape.fields, ∀ w, v.field? shape name = some w →
        ∀ d, ∃ d', Draft.read d (shape.index name) w.outline = .ok d' := by
      simp only [shape, List.forall_mem_cons]
      exact ⟨fun _ => slot_code.readable hcode, fun _ => slot_message.readable hmessage,
        fun _ => slot_description.readable hdescription, nofun⟩
    obtain ⟨d, hread⟩ := Outline.exists_draft hc hshape h.record hfields {}
    obtain ⟨missing, hrecord⟩ := (Outline.exists_readRecord hc).mpr ⟨h.record, hread⟩
    refine Result.bind_eq_ok.mpr ⟨(d, missing), hrecord, ?_⟩
    simp only [(slot_code.fills hc hshape h.record hread).eq hcode,
      (slot_message.fills hc hshape h.record hread).eq hmessage,
      (slot_description.fills hc hshape h.record hread).eq hdescription]

end ErrorDetails

-- ============================================================ members of sets

namespace MemberRecord

/-- A value spells a member of a set: a label and a status, and perhaps an
entity, headers and a payload. -/
structure Spells (v : Value) (r : MemberRecord) : Prop where
  record : v.IsRecord shape
  label : v.field? shape "label" = some (.text r.label)
  entity : Value.Optional (fun w id => ∃ s, w = .text s ∧ EntityId.parse? s = some id)
    (v.field? shape "entityId") r.entity
  status : v.field? shape "status" = some (.int (.ofUInt16 r.status.code))
  headers : v.field? shape "headers" = none ∧ r.headers = .empty
    ∨ v.field? shape "headers" = some (.object (r.headers.entries.map fun e => (e.1, .text e.2)))
  payload : Value.Optional (fun w p => w = p.value) (v.field? shape "payload") r.payload

variable {depth : Nat}

/-- Reading a field leaves what is made of the others alone. -/
theorem Draft.read_keeps {d d' : Draft} {i : Nat} {o : Outline}
    (hlt : i < shape.fields.length) (h : Draft.read .tree depth d i o = .ok d') :
    (i ≠ 0 → d'.label = d.label) ∧ (i ≠ 1 → d'.entity = d.entity)
      ∧ (i ≠ 2 → d'.status = d.status) ∧ (i ≠ 3 → d'.headers = d.headers)
      ∧ (i ≠ 4 → d'.payload = d.payload) := by
  match i with
  | 0 | 1 | 2 | 3 | 4 =>
      obtain ⟨_, -, h⟩ := Result.bind_eq_ok.mp h
      obtain rfl := Except.ok.inj h
      simp
  | i + 5 => exact absurd hlt (by simp [shape])

/-- Each field of a member has its own place in the draft: this is the label's. -/
theorem slot_label :
    Slot shape (Draft.read .tree depth) "label" (fun o => o.asText.map some) Draft.label := by
  refine .of_set (fun d label => { d with label }) (by decide) (fun d o => ?_) (fun _ _ => rfl)
    fun d i o d' hlt hne h => (Draft.read_keeps hlt h).1 hne
  show (o.asText >>= fun label => pure { d with label := some label }) = _
  cases o.asText <;> rfl

/-- The place of the entity. -/
theorem slot_entity :
    Slot shape (Draft.read .tree depth) "entityId" (Outline.optional Outline.asEntityId)
      Draft.entity := by
  refine .of_set (fun d entity => { d with entity }) (by decide) (fun d o => ?_) (fun _ _ => rfl)
    fun d i o d' hlt hne h => (Draft.read_keeps hlt h).2.1 hne
  show (o.optional Outline.asEntityId >>= fun entity => pure { d with entity }) = _
  cases o.optional Outline.asEntityId <;> rfl

/-- The place of the status. -/
theorem slot_status :
    Slot shape (Draft.read .tree depth) "status" (fun o => o.asStatus.map some)
      Draft.status := by
  refine .of_set (fun d status => { d with status }) (by decide) (fun d o => ?_) (fun _ _ => rfl)
    fun d i o d' hlt hne h => (Draft.read_keeps hlt h).2.2.1 hne
  show (o.asStatus >>= fun status => pure { d with status := some status }) = _
  cases o.asStatus <;> rfl

/-- The place of the headers. -/
theorem slot_headers :
    Slot shape (Draft.read .tree depth) "headers" (Outline.asHeaders .tree depth)
      Draft.headers := by
  refine .of_set (fun d headers => { d with headers }) (by decide) (fun d o => ?_)
    (fun _ _ => rfl) fun d i o d' hlt hne h => (Draft.read_keeps hlt h).2.2.2.1 hne
  show (o.asHeaders .tree depth >>= fun headers => pure { d with headers }) = _
  cases o.asHeaders .tree depth <;> rfl

/-- The place of the payload. -/
theorem slot_payload :
    Slot shape (Draft.read .tree depth) "payload"
      (Outline.optional (Outline.payload .tree depth)) Draft.payload := by
  refine .of_set (fun d payload => { d with payload }) (by decide) (fun d o => ?_)
    (fun _ _ => rfl) fun d i o d' hlt hne h => (Draft.read_keeps hlt h).2.2.2.2 hne
  show (o.optional (Outline.payload .tree depth) >>= fun payload => pure { d with payload }) = _
  cases o.optional (Outline.payload .tree depth) <;> rfl

section Fields

variable {content : Option Value}

/-- The entity is read as what the field says. -/
theorem fills_entity {entity : Option EntityId} :
    Fills (Outline.optional Outline.asEntityId) none entity content
      ↔ Value.Optional (fun w id => ∃ s, w = .text s ∧ EntityId.parse? s = some id)
          content entity :=
  Outline.fills_optional fun _ _ _ => Outline.asEntityId_outline

/-- The status is read from its code. -/
theorem fills_status {status : Status} :
    Fills (fun o => o.asStatus.map some) none (some status) content
      ↔ content = some (.int (.ofUInt16 status.code)) := by
  simp only [Outline.fills_required, Outline.asStatus_outline, exists_eq_right]

variable (hc : ∀ w ∈ content, w.Canonical)

include hc

/-- Headers may be missing, but not null. -/
theorem fills_headers {headers : Headers} :
    Fills (Outline.asHeaders .tree depth) .empty headers content
      ↔ content = none ∧ headers = .empty
        ∨ content = some (.object (headers.entries.map fun e => (e.1, .text e.2))) := by
  cases content with
  | none => simp [Fills]
  | some w => simp [Fills, Outline.asHeaders_outline (hc w rfl)]

/-- The payload is read as what the field says. -/
theorem fills_payload {payload : Option Payload} :
    Fills (Outline.optional (Outline.payload .tree depth)) none payload content
      ↔ Value.Optional (fun w p => w = p.value) content payload :=
  Outline.fills_optional fun w hw _ => Outline.payload_outline_tree (hc w hw)

end Fields

/-- A payload is decoded as the member that it spells. -/
theorem decode_eq_ok {v : Value} (hc : v.Canonical) {r : MemberRecord} :
    decode .tree depth v.outline = .ok r ↔ Spells v r := by
  have hshape : shape.fields.Nodup := by decide
  have hfield : ∀ {name : String}, ∀ w ∈ v.field? shape name, w.Canonical :=
    fun w hw => hc.field? hw
  constructor
  · intro h
    obtain ⟨⟨d, missing⟩, hrecord, h⟩ := Result.bind_eq_ok.mp h
    obtain ⟨hv, hread⟩ := (Outline.exists_readRecord hc).mp ⟨missing, hrecord⟩
    have hlabel := slot_label.fills hc hshape hv hread
    have hentity := slot_entity.fills hc hshape hv hread
    have hstatus := slot_status.fills hc hshape hv hread
    have hheaders := slot_headers.fills hc hshape hv hread
    have hpayload := slot_payload.fills hc hshape hv hread
    simp only at h
    split at h
    case h_3 label status hlabel' hstatus' =>
      obtain rfl := Except.ok.inj h
      rw [hlabel'] at hlabel
      rw [hstatus'] at hstatus
      exact ⟨hv, Outline.fills_text.mp hlabel, fills_entity.mp hentity,
        fills_status.mp hstatus, (fills_headers hfield).mp hheaders,
        (fills_payload hfield).mp hpayload⟩
    case h_1 | h_2 => cases h
  · intro h
    have hlabel := Outline.fills_text.mpr h.label
    have hentity := fills_entity.mpr h.entity
    have hstatus := fills_status.mpr h.status
    have hheaders : Fills (Outline.asHeaders .tree (depth + 1)) _ _ _ :=
      (fills_headers hfield).mpr h.headers
    have hpayload : Fills (Outline.optional (Outline.payload .tree (depth + 1))) _ _ _ :=
      (fills_payload hfield).mpr h.payload
    have hfields : ∀ name ∈ shape.fields, ∀ w, v.field? shape name = some w →
        ∀ d, ∃ d', Draft.read .tree (depth + 1) d (shape.index name) w.outline = .ok d' := by
      simp only [shape, List.forall_mem_cons]
      exact ⟨fun _ => slot_label.readable hlabel, fun _ => slot_entity.readable hentity,
        fun _ => slot_status.readable hstatus, fun _ => slot_headers.readable hheaders,
        fun _ => slot_payload.readable hpayload, nofun⟩
    obtain ⟨d, hread⟩ := Outline.exists_draft hc hshape h.record hfields {}
    obtain ⟨missing, hrecord⟩ := (Outline.exists_readRecord hc).mpr ⟨h.record, hread⟩
    refine Result.bind_eq_ok.mpr ⟨(d, missing), hrecord, ?_⟩
    simp only [(slot_label.fills hc hshape h.record hread).eq hlabel,
      (slot_entity.fills hc hshape h.record hread).eq hentity,
      (slot_status.fills hc hshape h.record hread).eq hstatus,
      (slot_headers.fills hc hshape h.record hread).eq hheaders,
      (slot_payload.fills hc hshape h.record hread).eq hpayload]

example : Spells (.list [.text "twin-persisted", .null, .int (.ofUInt16 204)])
    ⟨"twin-persisted", none, ⟨204⟩, .empty, none⟩ :=
  ⟨by decide, rfl, .null, rfl, .inl ⟨rfl, rfl⟩, .missing⟩

end MemberRecord

-- ======================================================= values of envelopes

namespace Envelope

/-- What is decoded from a payload is decoded from its value. -/
theorem decodePayload_eq_ok {α : Type} {decode : Medium → Nat → Outline → Except DecodeError α}
    {p : Payload} {a : α} :
    decodePayload decode p = .ok a ↔ decode .tree 0 p.value.outline = .ok a := by
  unfold decodePayload
  cases decode .tree 0 p.value.outline with
  | error err => simp
  | ok b => simp

/-- The value of an error is decoded as the details that it spells. -/
theorem details_eq_ok {value : Payload} {details : ErrorDetails} :
    decodePayload ErrorDetails.decode value = .ok details
      ↔ ErrorDetails.Spells value.value details := by
  rw [decodePayload_eq_ok, ErrorDetails.decode_eq_ok value.canonical]

/-- The members in an envelope are those that the items of its value spell. -/
theorem members_eq_ok {e : Envelope} {records : List MemberRecord} :
    e.members = .ok records
      ↔ (e.value = none ∧ records = [])
        ∨ ∃ value items, e.value = some value ∧ value.value = .list items
          ∧ List.Forall₂ MemberRecord.Spells items records := by
  unfold members
  cases hvalue : e.value with
  | none => simp [eq_comm]
  | some value =>
      obtain ⟨v, hc⟩ := value
      simp only [decodePayload_eq_ok]
      cases v with
      | list items =>
          have hcanonical := Value.listCanonical_iff.mp hc
          have hitems : (Value.outlines items).mapM (MemberRecord.decode .tree 1) = .ok records
              ↔ List.Forall₂ MemberRecord.Spells items records := by
            rw [Result.mapM_eq_ok, Value.outlines_eq_map, List.forall₂_map_left_iff]
            constructor
            · intro h
              have hboth := (List.forall₂_and_left _ _).mpr ⟨hcanonical, h⟩
              exact hboth.imp fun v r hv => (MemberRecord.decode_eq_ok hv.1).mp hv.2
            · intro h
              have hboth := (List.forall₂_and_left _ _).mpr ⟨hcanonical, h⟩
              exact hboth.imp fun v r hv => (MemberRecord.decode_eq_ok hv.1).mpr hv.2
          refine Iff.trans hitems ?_
          simp
      | null | bool | int | float | text | object =>
          simp [Value.outline, Outline.asList]

end Envelope

end DeviceTwin
