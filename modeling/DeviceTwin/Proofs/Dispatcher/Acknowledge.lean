/-
Answers to changes that ask for acknowledgements.

A change is an event that came in a frame, and each label in its headers
can be answered. The answer leaves with the channel and the correlation id
of the change and is about its entity, which has an address since it was
read from a topic. The label is another matter. It came as a text
in a list in a header, where it may be any text, and leaves as the last segment
of a topic, where it may not hold a slash. With one the text of the topic has a
segment too many and is no topic, so the client sends a frame
that nobody can read, and says that all went well. This is the only
obstacle (`acknowledgements_come_back_iff`).
-/
import DeviceTwin.Proofs.Dispatcher.Emission
import DeviceTwin.Proofs.Frame
import DeviceTwin.Proofs.Outgoing
import DeviceTwin.Proofs.RequestedAcks

namespace DeviceTwin

-- ==================================================================== changes

namespace Change

theorem answerHeaders_eq (c : Change) :
    c.answerHeaders = .routed c.headers.channel c.headers.correlationId := by
  unfold answerHeaders Headers.routed
  cases c.headers.correlationId <;> rfl

/-- A change has the entity and the headers of its event. -/
theorem of_ofEvent? {e : Event} {c : Change} (h : ofEvent? e = some c) :
    c.entity = e.entity ∧ c.headers = e.headers := by
  obtain ⟨action, -, rfl⟩ := Option.map_eq_some_iff.mp h
  exact ⟨rfl, rfl⟩

/-- Every label that is asked for has its request. -/
theorem ackRequest?_eq_some {c : Change} {label : String} (h : label ∈ c.requestedAcks) :
    c.ackRequest? label = some (c.ackRequestFor label) := by
  have hsome : (c.requestedAcks.find? (· == label)).isSome :=
    List.find?_isSome.mpr ⟨label, h, beq_self_eq_true label⟩
  obtain ⟨found, hfound⟩ := Option.isSome_iff_exists.mp hsome
  obtain rfl : found = label := by simpa using List.find?_some hfound
  rw [ackRequest?, hfound, Option.map_some]

end Change

/-- The answer to a change leaves as it is given, with the channel and the
correlation id of the change. -/
theorem Emission.signal_acknowledge (c : Change) (label : String) (status : Status)
    (payload : Option Payload) :
    (acknowledge (c.ackRequestFor label) status payload).signal
      = .acknowledgement ⟨label, c.entity, status,
          .routed c.headers.channel c.headers.correlationId, payload⟩ := by
  let a : Acknowledgement := ⟨label, c.entity, status,
    .routed c.headers.channel c.headers.correlationId, payload⟩
  have hanswer : (c.ackRequestFor label).answer status payload = a := by
    show Acknowledgement.mk label c.entity status c.answerHeaders payload = a
    rw [c.answerHeaders_eq]
  have hchannel : (Signal.acknowledgement a).channel = c.headers.channel :=
    Headers.channel_routed _ _
  show (Signal.acknowledgement ((c.ackRequestFor label).answer status payload)).leaving = _
  have hheaders : (Signal.acknowledgement a).headers
      = .routed c.headers.channel c.headers.correlationId := rfl
  rw [hanswer, Signal.leaving, hchannel]
  exact Signal.forChannel_routed hheaders

-- =================================================================== the label

section label

variable {F : WireFormat} {a : Acknowledgement}

/-- An acknowledgement whose label holds no slash comes back, but for null. -/
theorem toSignal_acknowledgement_frame {t : Topic} (ht : t.Proper)
    (hentity : a.entity = t.entity) (hlabel : '/' ∉ a.label.toList)
    (hpayload : ∀ p ∈ a.payload, p.value.FloatFree ∧ F.medium.Allows 1 p.value.height)
    (hsize : (F.encode (.ofSignal (.acknowledgement a))).Sized) :
    (F.encode (.ofSignal (.acknowledgement a))).toSignal
      = .ok (.acknowledgement { a with payload := a.payload.filter (· ≠ .null) }) := by
  have htopic : (Envelope.ofSignal (.acknowledgement a)).topic.Proper := by
    have hproper := (ht.make .things a.headers.channel .acks).withAction hlabel
    rw [← hentity] at hproper
    exact hproper
  have hfree : ∀ p ∈ (Envelope.ofSignal (.acknowledgement a)).free,
      p.value.FloatFree ∧ F.medium.Allows 1 p.value.height := by
    intro p hp
    rcases Envelope.mem_free.mp hp with hp | hp
    · exact hpayload p hp
    · cases hp
  have hdecode := F.decode_encode htopic.parse_text (fun p hp => (hfree p hp).1)
    (fun p hp => (hfree p hp).2) (F.fits_of_sized hsize)
  exact Result.bind_eq_ok.mpr ⟨_, hdecode,
    Envelope.toSignal_acknowledgement { a with payload := a.payload.filter (· ≠ .null) }⟩

/-- One whose label holds a slash cannot be read. -/
theorem decode_acknowledgement_slash (hlabel : '/' ∈ a.label.toList)
    (hsize : (F.encode (.ofSignal (.acknowledgement a))).Sized) :
    ∃ err, (F.encode (.ofSignal (.acknowledgement a))).decode = .error err := by
  cases he : (F.encode (.ofSignal (.acknowledgement a))).decode with
  | error err => exact ⟨err, rfl⟩
  | ok e =>
      have hreads := F.rereads_of_decode (F.fits_of_sized hsize) he
      have hunmoved := Topic.unmoved_of_parse_text hreads.topic
      exact absurd hlabel (hunmoved.action a.label rfl)

end label

-- ================================================================= end to end

namespace Change

/-- Every acknowledgement that a change asks for can be answered, and the answer
comes back if and only if its label holds no slash. For every change that came in
a frame, every label that it asks for and every status and payload, in any state
of the client whose transport accepts frames,

- there is a request for the label, and answering it hands one frame to the
  transport, which accepts it behind what it had; the call is over and did not fail;
- the frame holds an acknowledgement of the label, about the entity of the event
  and with its channel and its correlation id, with the status and the payload (null
  as left out), if and only if the label holds no slash; with one it cannot be read
  at all.

A payload must have no floating-point numbers and not nest too deeply for the
reader, and a binary frame must not be so large that a head cannot count its
parts. -/
theorem acknowledgements_come_back_iff {d : Dispatcher} (hs : d.Sound)
    (haccepting : d.outbox.Accepting) {f : Frame} {e : Event} (hf : f.toSignal = .ok (.event e))
    {change : Change} (hchange : ofEvent? e = some change) {label : String}
    (hlabel : label ∈ change.requestedAcks) (status : Status) {payload : Option Payload}
    (hpayload : ∀ p ∈ payload, p.value.FloatFree ∧ d.format.medium.Allows 1 p.value.height)
    (hsize : ((Emission.acknowledge (change.ackRequestFor label) status payload).frame
      d.format).Sized) (now : Nat) :
    let request := change.ackRequestFor label
    let answer := Emission.acknowledge request status payload
    let sent := answer.frame d.format
    let headers := Headers.routed e.headers.channel e.headers.correlationId
    change.ackRequest? label = some request
    ∧ d.handed (answer.operation d.format now) = [sent]
    ∧ (d.acknowledge now request status payload).outbox
        = { d.outbox with queue := d.outbox.queue ++ [sent] }
    ∧ (d.acknowledge now request status payload).result? d.nextCall = some (.ok none)
    ∧ (sent.toSignal
          = .ok (.acknowledgement ⟨label, e.entity, status, headers, payload.filter (· ≠ .null)⟩)
        ↔ '/' ∉ label.toList)
    ∧ ('/' ∈ label.toList → ∃ err, sent.decode = .error err)
    ∧ headers.channel = (Signal.event e).channel
    ∧ headers.correlationId = (Signal.event e).correlationId := by
  intro request answer sent headers
  obtain ⟨hentity, hheaders⟩ := of_ofEvent? hchange
  have hsent : sent = d.format.encode
      (.ofSignal (.acknowledgement ⟨label, e.entity, status, headers, payload⟩)) := by
    show d.format.encode (.ofSignal answer.signal) = _
    rw [Emission.signal_acknowledge, hentity, hheaders]
  -- the entity of the event was read from a topic
  obtain ⟨envelope, hdecode, hsignal⟩ := Result.bind_eq_ok.mp hf
  have hproper := Envelope.proper_of_decode (Frame.decode_eq_ok hdecode)
  have haddress : e.entity = envelope.topic.entity := by
    cases Envelope.holds_of_toSignal hsignal
    rfl
  change sent.Sized at hsize
  have hslash : '/' ∈ label.toList → ∃ err, sent.decode = .error err := by
    intro hslash
    rw [hsent] at hsize ⊢
    exact decode_acknowledgement_slash hslash hsize
  obtain ⟨hqueue, hresult⟩ := hs.start_accepting haccepting (x := answer) rfl now
  refine ⟨ackRequest?_eq_some hlabel, rfl, hqueue, hresult, ⟨?_, ?_⟩, hslash,
    Headers.channel_routed _ _, Headers.correlationId_routed _ _⟩
  · intro hback hmem
    obtain ⟨err, herr⟩ := hslash hmem
    rw [Frame.toSignal, herr] at hback
    cases hback
  · intro hplain
    rw [hsent] at hsize ⊢
    exact toSignal_acknowledgement_frame hproper haddress hplain hpayload hsize

/-- The news that a gate was made, and who wants to know that it arrived. -/
def gateMade : Envelope where
  topic := ⟨Frame.gate, .things, .twin, .events, some "thingCreated"⟩
  headers := (Headers.ofPairs [("correlation-id", "a")]).withRequestedAcks ["stored", "audit/log"]
  path := .root
  value := some (.text "new")
  status := none
  revision := some 1
  timestamp := none
  extra := none

/-- The event in it. -/
def gateMadeEvent : Event where
  type := "things.events:thingCreated"
  entity := Frame.gate
  path := .root
  value := some (.text "new")
  revision := 1
  timestamp := none
  extra := none
  headers := gateMade.headers

theorem toSignal_gateMade :
    (WireFormat.json.encode gateMade).toSignal = .ok (.event gateMadeEvent) := by
  have htopic : gateMade.topic.Proper :=
    ⟨by decide, by decide, by decide, by decide, by decide⟩
  have hflat : ∀ p ∈ gateMade.free, p.Flat := by
    intro p hp
    rw [List.mem_singleton.mp hp]
    exact Payload.flat_text "new"
  exact Result.bind_eq_ok.mpr ⟨_, WireFormat.decode_flat htopic hflat, rfl⟩

/-- The change that it describes. -/
def gateMadeChange : Change where
  action := .created
  entity := Frame.gate
  path := .root
  value := some (.text "new")
  revision := 1
  timestamp := none
  extra := none
  headers := gateMade.headers

theorem requestedAcks_gateMade : gateMadeChange.requestedAcks = ["stored", "audit/log"] :=
  Headers.requestedAcks_withRequestedAcks _ _

/-- Its first label is answered, and the answer comes back. -/
theorem stored_comes_back :
    ((Emission.acknowledge (gateMadeChange.ackRequestFor "stored") ⟨204⟩ none).frame
        .json).toSignal
      = .ok (.acknowledgement
          ⟨"stored", Frame.gate, ⟨204⟩, .routed .twin (some "a"), none⟩) := by
  have hlabel : "stored" ∈ gateMadeChange.requestedAcks := by
    rw [requestedAcks_gateMade]
    exact List.mem_cons_self
  have hchange : ofEvent? gateMadeEvent = some gateMadeChange := rfl
  have hpayload : ∀ p ∈ (none : Option Payload),
      p.value.FloatFree ∧ WireFormat.json.medium.Allows 1 p.value.height := nofun
  obtain ⟨-, -, -, -, hback, -⟩ := acknowledgements_come_back_iff
    (Dispatcher.sound_ofConfig {}) ⟨rfl, rfl, by decide⟩ toSignal_gateMade hchange hlabel ⟨204⟩
    hpayload trivial 0
  exact hback.mpr (by decide)

/-- Its second label is answered too, and the client that answers is told that
all went well, but nobody can read the answer. -/
theorem auditLog_is_lost :
    let answer := Emission.acknowledge (gateMadeChange.ackRequestFor "audit/log") ⟨204⟩ none
    (WireFormat.json.encode gateMade).toSignal = .ok (.event gateMadeEvent)
    ∧ ofEvent? gateMadeEvent = some gateMadeChange
    ∧ "audit/log" ∈ gateMadeChange.requestedAcks
    ∧ (Dispatcher.ofConfig {}).handed (answer.operation .json 0) = [answer.frame .json]
    ∧ (answer.start (.ofConfig {}) 0).result? 0 = some (.ok none)
    ∧ ∃ err, (answer.frame .json).decode = .error err := by
  intro answer
  have hlabel : "audit/log" ∈ gateMadeChange.requestedAcks := by
    rw [requestedAcks_gateMade]
    exact List.mem_cons_of_mem _ List.mem_cons_self
  obtain ⟨-, hresult⟩ := (Dispatcher.sound_ofConfig {}).start_accepting
    ⟨rfl, rfl, by decide⟩ (x := answer) rfl 0
  refine ⟨toSignal_gateMade, rfl, hlabel, rfl, hresult, ?_⟩
  show ∃ err, (WireFormat.json.encode (.ofSignal answer.signal)).decode = .error err
  rw [Emission.signal_acknowledge]
  exact decode_acknowledgement_slash (by decide) trivial

end Change

end DeviceTwin
