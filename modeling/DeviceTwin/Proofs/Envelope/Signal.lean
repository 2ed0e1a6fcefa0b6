/-
Signals and their envelopes.

An envelope has one form for all signals, and which of the six kinds it
holds is told by the criterion of its topic, the presence of a status and
the presence of an action. `signals_come_back` says that nothing is lost
on the way: the envelope of a signal holds that very signal.

There are two conditions. The envelope has no place for the type of a
command, a response or an event; it keeps the group and the name and
composes the type from them, so the type has to be one that is composed
like that (`Signal.WellTyped`). And a member of a set whose payload is
null comes back without one (`Signal.NullFree`).
-/
import DeviceTwin.Envelope.Basic
import DeviceTwin.Proofs.Envelope.Record

namespace DeviceTwin

-- ================================================================ conditions

namespace Signal

/-- The type is composed of a group, the criterion and a name. -/
def WellTyped : Signal → Prop
  | .command c => ∃ g n, c.type = SignalType.ofParts g "commands" n
  | .response r => ∃ g n, r.type = SignalType.ofParts g "responses" n
  | .event e => ∃ g n, e.type = SignalType.ofParts g "events" n
  | .error _ | .acknowledgement _ | .acknowledgements _ => True

/-- No member of a set has the payload null. -/
def NullFree : Signal → Prop
  | .acknowledgements set => ∀ a ∈ set.members, a.payload ≠ some .null
  | .command _ | .response _ | .error _ | .acknowledgement _ | .event _ => True

end Signal

/-- The acknowledgement without a payload that is null. -/
def Acknowledgement.withoutNull (a : Acknowledgement) : Acknowledgement :=
  { a with payload := a.payload.filter (· ≠ .null) }

namespace Acknowledgements

/-- The set without the payloads that are null. -/
def withoutNulls (set : Acknowledgements) : Acknowledgements :=
  { set with members := set.members.map Acknowledgement.withoutNull }

theorem withoutNulls_eq {set : Acknowledgements}
    (h : (Signal.acknowledgements set).NullFree) : set.withoutNulls = set := by
  have hmembers : set.members.map Acknowledgement.withoutNull = set.members.map id := by
    apply List.map_congr_left
    intro a ha
    have hpayload : ∀ p ∈ a.payload, p ≠ .null := by
      intro p hp hnull
      exact h a ha (hnull ▸ hp)
    rw [Acknowledgement.withoutNull, Outline.filter_ne_null hpayload]
    rfl
  rw [withoutNulls, hmembers, List.map_id]

end Acknowledgements

namespace Envelope

-- =================================================================== headers

/-- Headers that name the live channel need no mark. -/
theorem contains_of_channel_live {h : Headers} (hl : h.channel = .live) :
    h.contains Headers.channelKey = true := by
  unfold Headers.channel at hl
  unfold Headers.contains
  cases hc : h.get? Headers.channelKey with
  | none =>
      rw [hc] at hl
      cases hl
  | some name => rfl

/-- A topic on the live channel was made for it. -/
theorem channelFor_eq_live {g : Group} {c : Channel}
    (h : Topic.channelFor g c = .live) : c = .live := by
  cases g <;> cases c <;> simp_all [Topic.channelFor]

theorem headers_ofSignal (s : Signal) : (ofSignal s).headers = s.headers := by
  cases s <;> rfl

theorem channel_ofSignal (s : Signal) :
    (ofSignal s).topic.channel = Topic.channelFor s.group s.channel := by
  cases s <;> rfl

theorem group_ofSignal (s : Signal) : (ofSignal s).topic.group = s.group := by
  cases s <;> rfl

/-- The headers of a signal are those of its envelope, without a mark. -/
theorem signalHeaders_ofSignal (s : Signal) :
    (ofSignal s).signalHeaders = s.headers := by
  rw [← headers_ofSignal]
  refine if_neg fun hlive => ?_
  rw [channel_ofSignal] at hlive
  have hcontains := contains_of_channel_live (channelFor_eq_live hlive.1)
  rw [← headers_ofSignal, hlive.2] at hcontains
  cases hcontains

-- ===================================================================== types

/-- A type that is composed is composed again of what is read from it. -/
theorem ofParts_of_eq {type criterion name : String} {g : Group}
    (hcriterion : ':' ∉ criterion.toList)
    (h : type = SignalType.ofParts g criterion name) :
    SignalType.ofParts ((SignalType.group? type).getD .things) criterion
      (SignalType.shortName type) = type := by
  subst h
  rw [SignalType.group?_ofParts, SignalType.shortName_ofParts g name hcriterion]
  rfl

-- ============================================================ the six kinds

theorem toSignal_command {c : Command} (h : (Signal.command c).WellTyped) :
    (ofSignal (.command c)).toSignal = .ok (.command c) := by
  obtain ⟨g, n, htype⟩ := h
  have hheaders := signalHeaders_ofSignal (.command c)
  have hparts := ofParts_of_eq (by decide) htype
  show Except.ok (Signal.command ⟨SignalType.ofParts
    ((SignalType.group? c.type).getD .things) "commands"
    (SignalType.shortName c.type), c.entity, c.path, c.value,
    (ofSignal (.command c)).signalHeaders⟩) = _
  rw [hparts, hheaders]
  rfl

theorem toSignal_response {r : CommandResponse}
    (h : (Signal.response r).WellTyped) :
    (ofSignal (.response r)).toSignal = .ok (.response r) := by
  obtain ⟨g, n, htype⟩ := h
  have hheaders := signalHeaders_ofSignal (.response r)
  have hparts := ofParts_of_eq (by decide) htype
  show Except.ok (Signal.response ⟨SignalType.ofParts
    ((SignalType.group? r.type).getD .things) "responses"
    (SignalType.shortName r.type), r.entity, r.path, r.status, r.value,
    (ofSignal (.response r)).signalHeaders⟩) = _
  rw [hparts, hheaders]
  rfl

theorem toSignal_event {e : Event} (h : (Signal.event e).WellTyped) :
    (ofSignal (.event e)).toSignal = .ok (.event e) := by
  obtain ⟨g, n, htype⟩ := h
  have hheaders := signalHeaders_ofSignal (.event e)
  have hparts := ofParts_of_eq (by decide) htype
  show Except.ok (Signal.event ⟨SignalType.ofParts
    ((SignalType.group? e.type).getD .things) "events"
    (SignalType.shortName e.type), e.entity, e.path, e.value, e.revision,
    e.timestamp, e.extra, (ofSignal (.event e)).signalHeaders⟩) = _
  rw [hparts, hheaders]
  rfl

theorem toSignal_acknowledgement (a : Acknowledgement) :
    (ofSignal (.acknowledgement a)).toSignal = .ok (.acknowledgement a) := by
  have hheaders := signalHeaders_ofSignal (.acknowledgement a)
  show Except.ok (Signal.acknowledgement ⟨a.label, a.entity, a.status,
    (ofSignal (.acknowledgement a)).signalHeaders, a.payload⟩) = _
  rw [hheaders]
  rfl

theorem toSignal_error (e : ErrorResponse) :
    (ofSignal (.error e)).toSignal = .ok (.error e) := by
  have hheaders := signalHeaders_ofSignal (.error e)
  have hdetails : decodePayload ErrorDetails.decode (.ofPairs e.details.fields)
      = .ok e.details := by
    rw [decodePayload, e.details.decode_payload (Medium.allows_tree 0 1)]
  refine Result.bind_eq_ok.mpr ⟨e.status, rfl,
    Result.bind_eq_ok.mpr ⟨_, rfl,
      Result.bind_eq_ok.mpr ⟨e.details, hdetails, ?_⟩⟩⟩
  rw [hheaders]
  rfl

/-- The records in the envelope of a set are those of its members, but for a
payload that is null. -/
theorem members_ofSignal (set : Acknowledgements) :
    (ofSignal (.acknowledgements set)).members
      = .ok (set.members.map fun a => (MemberRecord.ofMember set.entity a).withoutNull) := by
  have hmembers : (set.members.map fun a =>
        (Payload.ofPairs (MemberRecord.ofMember set.entity a).fields).value.outline).mapM
          (MemberRecord.decode .tree 1)
      = .ok (set.members.map fun a => (MemberRecord.ofMember set.entity a).withoutNull) := by
    refine Result.mapM_eq_ok.mpr ?_
    rw [List.forall₂_map_left_iff, List.forall₂_map_right_iff,
      List.forall₂_same]
    intro a _
    exact MemberRecord.decode_payload_withoutNull _ (Medium.allows_tree 1 2)
      fun p _ => Medium.allows_tree 2 p.value.height
  have hlist : Outline.asList .tree 0 (MemberRecord.decode .tree)
      (membersPayload set).value.outline
      = .ok (set.members.map fun a => (MemberRecord.ofMember set.entity a).withoutNull) := by
    unfold membersPayload Payload.ofList
    rw [Value.outline, Value.outlines_eq_map, List.map_map, List.map_map]
    exact hmembers
  show decodePayload
    (fun m depth => Outline.asList m depth (MemberRecord.decode m))
    (membersPayload set) = _
  rw [decodePayload, hlist]

/-- The record of a member stands for the member, whether it names the entity or
leaves it out. -/
theorem toMember_ofMember (entity : EntityId) (a : Acknowledgement) :
    (MemberRecord.ofMember entity a).withoutNull.toMember entity = a.withoutNull := by
  obtain ⟨label, id, status, headers, payload⟩ := a
  by_cases hid : id = entity
  · simp [MemberRecord.ofMember, MemberRecord.toMember, MemberRecord.withoutNull,
      Acknowledgement.withoutNull, hid]
  · simp [MemberRecord.ofMember, MemberRecord.toMember, MemberRecord.withoutNull,
      Acknowledgement.withoutNull, hid]

/-- A set comes back, but for payloads that are null. -/
theorem toSignal_acknowledgements_withoutNulls (set : Acknowledgements) :
    (ofSignal (.acknowledgements set)).toSignal
      = .ok (.acknowledgements set.withoutNulls) := by
  have hheaders := signalHeaders_ofSignal (.acknowledgements set)
  have hmembers : (set.members.map fun a =>
        (MemberRecord.ofMember set.entity a).withoutNull).map
      (MemberRecord.toMember set.entity) = set.members.map Acknowledgement.withoutNull := by
    rw [List.map_map]
    exact List.map_congr_left fun a _ => toMember_ofMember set.entity a
  refine Result.bind_eq_ok.mpr ⟨set.status, rfl,
    Result.bind_eq_ok.mpr ⟨_, members_ofSignal set, ?_⟩⟩
  show Except.ok (Signal.acknowledgements ⟨set.entity, set.status,
    (set.members.map fun a => (MemberRecord.ofMember set.entity a).withoutNull).map
      (MemberRecord.toMember set.entity), _⟩) = _
  rw [hmembers, hheaders]
  rfl

theorem toSignal_acknowledgements {set : Acknowledgements}
    (h : (Signal.acknowledgements set).NullFree) :
    (ofSignal (.acknowledgements set)).toSignal
      = .ok (.acknowledgements set) := by
  rw [toSignal_acknowledgements_withoutNulls, Acknowledgements.withoutNulls_eq h]

/-- Signals come back from their envelopes, whatever their kind, headers
and contents, if they have types that are composed of a group, the
criterion of their kind and a name, and no member of a set has the payload
null. -/
theorem signals_come_back (s : Signal) (htype : s.WellTyped)
    (hnull : s.NullFree) : (ofSignal s).toSignal = .ok s := by
  cases s with
  | command c => exact toSignal_command htype
  | response r => exact toSignal_response htype
  | error e => exact toSignal_error e
  | acknowledgement a => exact toSignal_acknowledgement a
  | acknowledgements set => exact toSignal_acknowledgements hnull
  | event e => exact toSignal_event htype

/-- The door of a house. -/
def door : EntityId := ⟨"house", "door", by decide, by decide⟩

/-- A set of a positive answer about the door itself and one about its bell
with a payload. -/
def answers : Acknowledgements where
  entity := door
  status := ⟨424⟩
  members := [⟨"stored", door, ⟨204⟩, .empty, none⟩,
    ⟨"rung", ⟨"house", "bell", by decide, by decide⟩, ⟨400⟩,
      .ofPairs [("version", "2")], some (.text "broken")⟩]
  headers := .ofPairs [("channel", "live"), ("correlation-id", "a")]

/-- A command on the live channel, under a name of two words. -/
def openUp : Command where
  type := "things.commands:open up"
  entity := door
  path := .root
  value := some .null
  headers := answers.headers

/-- The set comes back with both members, and the command with its value,
which is null. -/
theorem answers_come_back :
    (ofSignal (.acknowledgements answers)).toSignal
      = .ok (.acknowledgements answers)
    ∧ (ofSignal (.command openUp)).toSignal = .ok (.command openUp) := by
  have htype : (Signal.command openUp).WellTyped :=
    ⟨.things, "open up", by decide⟩
  have hnull : (Signal.acknowledgements answers).NullFree := by
    intro a ha
    simp only [answers, List.mem_cons, List.not_mem_nil, or_false] at ha
    obtain rfl | rfl := ha
    · exact fun h => by cases h
    · exact fun h => by cases congrArg Payload.value (Option.some.inj h)
  exact ⟨signals_come_back _ trivial hnull,
    signals_come_back _ htype trivial⟩

end Envelope

end DeviceTwin
