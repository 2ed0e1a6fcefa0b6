/-
The envelope of a signal that came in an envelope.

`Holds` says in one place which signal an envelope holds, and an envelope is
taken for just that (`toSignal_eq_ok`). From its six cases follows what the
two envelopes have in common, the one that the signal came in and the one that
is made of it: the new topic is proper if the old one was (`proper_ofSignal`),
and the new free values nest no deeper than the old ones, a record of fixed
depth excepted, and have no floating-point numbers that were not there before
(`sendable_ofSignal`). The two envelopes need not be the same: a missing
revision, an acknowledgement about a policy or error details with fields of
unknown names are not written as they were read. What stays is the signal
(`toSignal_ofSignal`).
-/
import DeviceTwin.Proofs.Envelope.Content
import DeviceTwin.Proofs.Envelope.Signal
import DeviceTwin.Proofs.Envelope.Wire

namespace DeviceTwin

namespace Topic

theorem Proper.make {t : Topic} (h : t.Proper) (g : Group) (c : Channel)
    (criterion : Criterion) : (Topic.make t.entity g c criterion).Proper where
  ns := h.ns
  ns_ne := h.ns_ne
  name := h.name
  action := nofun
  channel := by
    rintro rfl
    rfl

theorem Proper.withAction {t : Topic} (h : t.Proper) {action : String}
    (haction : '/' ∉ action.toList) : (t.withAction action).Proper where
  ns := h.ns
  ns_ne := h.ns_ne
  name := h.name
  action := by
    rintro a ha
    obtain rfl := Option.some.inj ha
    exact haction
  channel := h.channel

end Topic

namespace Envelope

variable {e : Envelope} {s : Signal}

-- ============================================================= what is held

/-- The signal that an envelope holds, if it holds one: which fields must be
there, and what is made of them. -/
inductive Holds (e : Envelope) : Signal → Prop
  | command {action : String} (haction : e.topic.action = some action)
      (hstatus : e.status = none) (hcriterion : e.topic.criterion = .commands) :
      Holds e (.command ⟨SignalType.ofParts e.topic.group "commands" action,
        e.topic.entity, e.path, e.value, e.signalHeaders⟩)
  | response {action : String} {status : Status}
      (haction : e.topic.action = some action) (hstatus : e.status = some status)
      (hcriterion : e.topic.criterion = .commands) :
      Holds e (.response ⟨SignalType.ofParts e.topic.group "responses" action,
        e.topic.entity, e.path, status, e.value, e.signalHeaders⟩)
  | event {action : String} (haction : e.topic.action = some action)
      (hcriterion : e.topic.criterion = .events) :
      Holds e (.event ⟨SignalType.ofParts e.topic.group "events" action,
        e.topic.entity, e.path, e.value, e.revision.getD 0, e.timestamp,
        e.extra, e.signalHeaders⟩)
  | error {status : Status} {value : Payload} {details : ErrorDetails}
      (hstatus : e.status = some status) (hvalue : e.value = some value)
      (hdetails : decodePayload ErrorDetails.decode value = .ok details)
      (hcriterion : e.topic.criterion = .errors) :
      Holds e (.error ⟨e.topic.group, e.topic.entity, status, details,
        e.signalHeaders⟩)
  | acknowledgement {label : String} {status : Status}
      (haction : e.topic.action = some label) (hstatus : e.status = some status)
      (hcriterion : e.topic.criterion = .acks) :
      Holds e (.acknowledgement ⟨label, e.topic.entity, status,
        e.signalHeaders, e.value⟩)
  | acknowledgements {status : Status} {records : List MemberRecord}
      (hstatus : e.status = some status) (hmembers : e.members = .ok records)
      (haction : e.topic.action = none) (hcriterion : e.topic.criterion = .acks) :
      Holds e (.acknowledgements ⟨e.topic.entity, status,
        records.map (MemberRecord.toMember e.topic.entity), e.signalHeaders⟩)

theorem require_eq_ok {α : Type} {name : String} {field : Option α} {a : α} :
    require name field = .ok a ↔ field = some a := by
  cases field with
  | none => simp [require]
  | some b => simp [require]

theorem holds_of_toSignal (h : e.toSignal = .ok s) : Holds e s := by
  unfold toSignal at h
  cases hc : e.topic.criterion with
  | commands =>
      rw [hc] at h
      obtain ⟨action, haction, h⟩ := Result.bind_eq_ok.mp h
      cases hs : e.status with
      | some status =>
          rw [hs] at h
          obtain rfl := Except.ok.inj h
          exact .response (require_eq_ok.mp haction) hs hc
      | none =>
          rw [hs] at h
          obtain rfl := Except.ok.inj h
          exact .command (require_eq_ok.mp haction) hs hc
  | events =>
      rw [hc] at h
      obtain ⟨action, haction, h⟩ := Result.bind_eq_ok.mp h
      obtain rfl := Except.ok.inj h
      exact .event (require_eq_ok.mp haction) hc
  | errors =>
      rw [hc] at h
      obtain ⟨status, hstatus, h⟩ := Result.bind_eq_ok.mp h
      obtain ⟨value, hvalue, h⟩ := Result.bind_eq_ok.mp h
      obtain ⟨details, hdetails, h⟩ := Result.bind_eq_ok.mp h
      obtain rfl := Except.ok.inj h
      exact .error (require_eq_ok.mp hstatus) (require_eq_ok.mp hvalue) hdetails hc
  | acks =>
      rw [hc] at h
      obtain ⟨status, hstatus, h⟩ := Result.bind_eq_ok.mp h
      cases ha : e.topic.action with
      | some label =>
          rw [ha] at h
          obtain rfl := Except.ok.inj h
          exact .acknowledgement ha (require_eq_ok.mp hstatus) hc
      | none =>
          rw [ha] at h
          obtain ⟨records, hmembers, h⟩ := Result.bind_eq_ok.mp h
          obtain rfl := Except.ok.inj h
          exact .acknowledgements (require_eq_ok.mp hstatus) hmembers ha hc

theorem toSignal_of_holds (h : Holds e s) : e.toSignal = .ok s := by
  unfold toSignal
  cases h with
  | command haction hstatus hcriterion =>
      rw [hcriterion]
      refine Result.bind_eq_ok.mpr ⟨_, require_eq_ok.mpr haction, ?_⟩
      rw [hstatus]
      rfl
  | response haction hstatus hcriterion =>
      rw [hcriterion]
      refine Result.bind_eq_ok.mpr ⟨_, require_eq_ok.mpr haction, ?_⟩
      rw [hstatus]
      rfl
  | event haction hcriterion =>
      rw [hcriterion]
      exact Result.bind_eq_ok.mpr ⟨_, require_eq_ok.mpr haction, rfl⟩
  | error hstatus hvalue hdetails hcriterion =>
      rw [hcriterion]
      exact Result.bind_eq_ok.mpr ⟨_, require_eq_ok.mpr hstatus,
        Result.bind_eq_ok.mpr ⟨_, require_eq_ok.mpr hvalue,
          Result.bind_eq_ok.mpr ⟨_, hdetails, rfl⟩⟩⟩
  | acknowledgement haction hstatus hcriterion =>
      rw [hcriterion]
      refine Result.bind_eq_ok.mpr ⟨_, require_eq_ok.mpr hstatus, ?_⟩
      rw [haction]
      rfl
  | acknowledgements hstatus hmembers haction hcriterion =>
      rw [hcriterion]
      refine Result.bind_eq_ok.mpr ⟨_, require_eq_ok.mpr hstatus, ?_⟩
      rw [haction]
      exact Result.bind_eq_ok.mpr ⟨_, hmembers, rfl⟩

/-- An envelope is taken for exactly the signals that it holds. -/
theorem toSignal_eq_ok : e.toSignal = .ok s ↔ Holds e s :=
  ⟨holds_of_toSignal, toSignal_of_holds⟩

/-- The headers of the signal in an envelope. -/
theorem headers_of_toSignal (h : e.toSignal = .ok s) : s.headers = e.signalHeaders := by
  cases holds_of_toSignal h <;> rfl

-- ==================================================================== topics

/-- The topic that a signal gets is proper if the one that it had was. -/
theorem proper_ofSignal (htopic : e.topic.Proper) (h : Holds e s) :
    (ofSignal s).topic.Proper := by
  cases h with
  | command haction =>
      refine (htopic.make _ _ _).withAction ?_
      rw [Signal.type, SignalType.shortName_ofParts _ _ (by decide)]
      exact htopic.action _ haction
  | response haction =>
      refine (htopic.make _ _ _).withAction ?_
      rw [Signal.type, SignalType.shortName_ofParts _ _ (by decide)]
      exact htopic.action _ haction
  | event haction =>
      refine (htopic.make _ _ _).withAction ?_
      rw [Signal.type, SignalType.shortName_ofParts _ _ (by decide)]
      exact htopic.action _ haction
  | error => exact htopic.make _ _ _
  | acknowledgement haction =>
      exact (htopic.make _ _ _).withAction (htopic.action _ haction)
  | acknowledgements => exact htopic.make _ _ _

-- =================================================================== members

/-- The payloads of members were parts of the value. -/
theorem payload_of_members {records : List MemberRecord}
    (h : e.members = .ok records) {r : MemberRecord} (hr : r ∈ records)
    {p : Payload} (hp : r.payload = some p) :
    ∃ value ∈ e.value, ∃ v : Value,
      v.IsPart value.value ∧ p.value.IsPart v ∧ p ≠ .null := by
  rcases members_eq_ok.mp h with ⟨-, rfl⟩ | ⟨value, items, hvalue, hlist, hitems⟩
  · cases hr
  · obtain ⟨v, hv, hspells⟩ := Result.exists_of_mem_forall₂ hitems hr
    have hitem : v.IsPart value.value := hlist ▸ .item hv
    refine ⟨value, hvalue, v, hitem, ?_⟩
    have hpayload := hspells.payload
    rw [hp] at hpayload
    generalize hfield : v.field? MemberRecord.shape "payload" = content at hpayload
    cases hpayload with
    | content hne hw =>
        subst hw
        exact ⟨(hitem.canonical value.canonical).isPart_field? hfield,
          fun hnull => hne (congrArg Payload.value hnull)⟩

/-- Members of sets that came in an envelope have no payload null. -/
theorem nullFree_of_holds (h : Holds e s) : s.NullFree := by
  cases h with
  | acknowledgements _ hmembers =>
      intro a ha hnull
      obtain ⟨r, hr, rfl⟩ := List.mem_map.mp ha
      obtain ⟨-, -, -, -, -, hne⟩ := payload_of_members hmembers hr hnull
      exact hne rfl
  | command | response | event | error | acknowledgement => trivial

/-- A signal that came in an envelope comes back from its own. -/
theorem toSignal_ofSignal (h : Holds e s) : (ofSignal s).toSignal = .ok s := by
  have hnull := nullFree_of_holds h
  cases h with
  | command => exact toSignal_command ⟨_, _, rfl⟩
  | response => exact toSignal_response ⟨_, _, rfl⟩
  | event => exact toSignal_event ⟨_, _, rfl⟩
  | error => exact toSignal_error _
  | acknowledgement => exact toSignal_acknowledgement _
  | acknowledgements => exact toSignal_acknowledgements hnull

-- =============================================================== free values

/-- A free value that is no null, has no floating-point numbers and may
stand in an envelope in this medium. -/
structure Sendable (m : Medium) (p : Payload) : Prop where
  floatFree : p.value.FloatFree
  room : m.Allows 1 p.value.height
  ne_null : p ≠ .null

/-- Error details nest one level deep. -/
theorem sendable_details {m : Medium} (hroom : m.Allows 1 1) (d : ErrorDetails) :
    Sendable m (.ofPairs d.fields) where
  floatFree := Payload.floatFree_ofPairs fun f hf => (d.flat_of_mem_fields f hf).1
  room := hroom.mono (Payload.height_ofPairs_le fun f hf => (d.flat_of_mem_fields f hf).2)
  ne_null := fun h => by cases congrArg Payload.value h

/-- What is true of every field of the members of a set. -/
theorem mem_membersPayload {set : Acknowledgements} {v : Value}
    (hv : v ∈ (set.members.map fun a =>
      Payload.ofPairs (MemberRecord.ofMember set.entity a).fields).map Payload.value) :
    ∃ a ∈ set.members,
      v = (Payload.ofPairs (MemberRecord.ofMember set.entity a).fields).value
      ∧ ∀ f ∈ (MemberRecord.ofMember set.entity a).fields,
          f.2.Flat ∨ f.2 ∈ a.payload := by
  obtain ⟨p, hp, rfl⟩ := List.mem_map.mp hv
  obtain ⟨a, ha, rfl⟩ := List.mem_map.mp hp
  exact ⟨a, ha, rfl, fun f hf => MemberRecord.flat_or_payload hf⟩

/-- Members nest two levels deep, or two levels deeper than their
payloads. -/
theorem sendable_membersPayload {m : Medium} {set : Acknowledgements}
    (hroom : m.Allows 1 3) (h : ∀ a ∈ set.members, ∀ p ∈ a.payload,
      p.value.FloatFree ∧ m.Allows 1 (p.value.height + 2)) :
    Sendable m (membersPayload set) where
  floatFree := by
    refine Value.listFloatFree_iff.mpr fun v hv => ?_
    obtain ⟨a, ha, rfl, hfields⟩ := mem_membersPayload hv
    refine Payload.floatFree_ofPairs fun f hf => ?_
    rcases hfields f hf with hflat | hpayload
    · exact hflat.floatFree
    · exact (h a ha f.2 hpayload).1
  room := by
    intro limit hlimit
    have hleast := hroom limit hlimit
    have hlist : Value.listHeight ((set.members.map fun a =>
        Payload.ofPairs (MemberRecord.ofMember set.entity a).fields).map Payload.value)
        ≤ limit - 3 + 1 := by
      refine Value.listHeight_le fun v hv => ?_
      obtain ⟨a, ha, rfl, hfields⟩ := mem_membersPayload hv
      refine Payload.height_ofPairs_le fun f hf => ?_
      rcases hfields f hf with hflat | hpayload
      · have := hflat.height
        omega
      · have := (h a ha f.2 hpayload).2 limit hlimit
        omega
    show 1 + (Value.listHeight _ + 1) ≤ limit
    omega
  ne_null := fun h => by cases congrArg Payload.value h

/-- The free values of the new envelope can be sent if those of the old
one can. -/
theorem sendable_ofSignal {m : Medium} (hroom : m.Allows 1 3)
    (hfree : ∀ p ∈ e.free, Sendable m p) (h : Holds e s) :
    ∀ p ∈ (ofSignal s).free, Sendable m p := by
  have hvalue : ∀ p ∈ e.value, Sendable m p :=
    fun p hp => hfree p (mem_free.mpr (.inl hp))
  intro p hp
  rcases mem_free.mp hp with hp | hp
  · cases h with
    | command => exact hvalue p hp
    | response => exact hvalue p hp
    | event => exact hvalue p hp
    | acknowledgement => exact hvalue p hp
    | error =>
        obtain rfl := Option.some.inj hp
        exact sendable_details (hroom.mono (by decide)) _
    | acknowledgements _ hmembers =>
        obtain rfl := Option.some.inj hp
        refine sendable_membersPayload hroom fun a ha p hp => ?_
        obtain ⟨r, hr, rfl⟩ := List.mem_map.mp ha
        obtain ⟨value, hmem, v, hv, hpart, -⟩ := payload_of_members hmembers hr hp
        have hold := hvalue value hmem
        refine ⟨hpart.floatFree (hv.floatFree hold.floatFree), hold.room.mono ?_⟩
        have hinner := hpart.height_lt
        have houter := hv.height_lt
        omega
  · cases h with
    | event => exact hfree p (mem_free.mpr (.inr hp))
    | command | response | acknowledgement | error | acknowledgements => cases hp

end Envelope

end DeviceTwin
