/-
A command on the live channel and its response.

Two clients talk here without the server in between. The first asks a thing
on the live channel; its frame is read by the second, which hands the
command to the application and sends the response that the application
gives; that frame is read by the first, where the request waits.

Each of the four steps keeps what the next one needs. The command leaves on
the live channel, with its correlation id and with fewer headers of its own
(`exists_asked`). Whatever its value is read as, the other end hears a
command about the same thing under the same id (`Addressed.heardAs`). The
response takes the entity, the path and the id from there and leaves as it
is, because its headers are fit for the live channel (`signal_respond`), so
it comes back as it was given (`HeardAs.decode_respond`). As the request is
pending under this very id it gets the envelope, and nobody else does
(`Pending.ends`). What it makes of it is the response itself
(`live_commands_are_answered`).
-/
import DeviceTwin.Proofs.Dispatcher.Emission
import DeviceTwin.Proofs.Dispatcher.Pending
import DeviceTwin.Proofs.Frame
import DeviceTwin.Proofs.Outgoing

namespace DeviceTwin

-- ==================================================================== headers

namespace Headers

/-- The headers of a reply to a live command with this correlation id. -/
def forReply (id : String) : Headers := (empty.withChannel .live).withCorrelationId id

theorem channel_forReply (id : String) : (forReply id).channel = .live :=
  channel_routed .live (some id)

theorem correlationId_forReply (id : String) : (forReply id).correlationId = some id :=
  correlationId_routed .live (some id)

end Headers

-- =================================================================== commands

/-- A command of a thing that has an address: a type with a name, and no part
of the topic holds a slash or stands for another. -/
structure Command.Addressed (c : Command) (name : String) : Prop where
  type : c.type = SignalType.ofParts .things "commands" name
  name : '/' ∉ name.toList
  entityName : '/' ∉ c.entity.name.toList
  ns : '/' ∉ c.entity.ns.toList
  ns_ne : c.entity.ns ≠ Topic.emptyNamespace

namespace Command.Addressed

variable {c : Command} {name : String}

/-- The topic of a message about the command. -/
def topic (c : Command) (name : String) : Topic :=
  ⟨c.entity, .things, .live, .commands, some name⟩

theorem withHeaders (h : c.Addressed name) (headers : Headers) :
    Command.Addressed { c with headers } name :=
  ⟨h.type, h.name, h.entityName, h.ns, h.ns_ne⟩

theorem proper (h : c.Addressed name) {action : String} (haction : '/' ∉ action.toList) :
    (topic c action).Proper where
  ns := h.ns
  ns_ne := h.ns_ne
  name := h.entityName
  action := by
    rintro a ha
    obtain rfl := Option.some.inj ha
    exact haction
  channel := nofun

/-- The topic of a command or a response about a thing on the live channel. -/
theorem topic_eq {entity : EntityId} {type criterion name : String} {channel : Channel}
    (hlive : channel = .live) (htype : type = SignalType.ofParts .things criterion name)
    (hcriterion : ':' ∉ criterion.toList) :
    (Topic.make entity ((SignalType.group? type).getD .things) channel .commands).withAction
        (SignalType.shortName type)
      = ⟨entity, .things, .live, .commands, some name⟩ := by
  rw [hlive, htype, SignalType.group?_ofParts, SignalType.shortName_ofParts _ _ hcriterion]
  rfl

theorem topic_command (h : c.Addressed name) (hlive : c.headers.channel = .live) :
    (Envelope.ofSignal (.command c)).topic = topic c name :=
  topic_eq hlive h.type (by decide)

end Command.Addressed

-- ================================================================= on the wire

section wire

variable {F : WireFormat} {c : Command} {name : String}

/-- The other end hears the command that was sent, whatever its value is
read as. -/
theorem heard_of_rereads {m : Medium} {e : Envelope} {heard : Command}
    (haddressed : c.Addressed name) (hlive : c.headers.channel = .live)
    (h : Envelope.Rereads m (.ofSignal (.command c)) e)
    (hheard : e.toSignal = .ok (.command heard)) :
    heard.type = c.type ∧ heard.entity = c.entity ∧ heard.path = c.path
    ∧ heard.headers = c.headers := by
  have htopic : e.topic = Command.Addressed.topic c name := by
    have hparse := h.topic
    rw [haddressed.topic_command hlive,
      (haddressed.proper haddressed.name).parse_text] at hparse
    exact (Except.ok.inj hparse).symm
  have hheaders : e.headers = c.headers := h.headers
  have hsignal : e.signalHeaders = c.headers := by
    rw [← hheaders]
    refine if_neg fun hmark => ?_
    have hcontains := Envelope.contains_of_channel_live hlive
    rw [← hheaders, hmark.2] at hcontains
    cases hcontains
  cases Envelope.holds_of_toSignal hheard with
  | command haction =>
      rw [htopic] at haction
      obtain rfl := Option.some.inj haction
      refine ⟨?_, ?_, h.path, hsignal⟩
      · rw [htopic, haddressed.type]
        rfl
      · show e.topic.entity = c.entity
        rw [htopic]
        rfl

/-- An envelope about an addressed command is read back, but for null. -/
theorem decode_addressed (haddressed : c.Addressed name) {e : Envelope} {action : String}
    (htopic : e.topic = Command.Addressed.topic c action) (haction : '/' ∉ action.toList)
    (hextra : e.extra = none)
    (hvalue : ∀ p ∈ e.value, p.value.FloatFree ∧ F.medium.Allows 1 p.value.height)
    (hsize : (F.encode e).Sized) : (F.encode e).decode = .ok e.withoutNulls := by
  have hfree : ∀ p ∈ e.free, p.value.FloatFree ∧ F.medium.Allows 1 p.value.height := by
    intro p hp
    rcases Envelope.mem_free.mp hp with hp | hp
    · exact hvalue p hp
    · rw [hextra] at hp
      cases hp
  have hparse : Topic.parse e.topic.text = .ok e.topic := by
    rw [htopic]
    exact (haddressed.proper haction).parse_text
  exact F.decode_encode hparse (fun p hp => (hfree p hp).1) (fun p hp => (hfree p hp).2)
    (F.fits_of_sized hsize)

/-- A command that can be read is heard. -/
theorem toSignal_command_frame (haddressed : c.Addressed name)
    (hlive : c.headers.channel = .live)
    (hvalue : ∀ p ∈ c.value, p.value.FloatFree ∧ F.medium.Allows 1 p.value.height)
    (hsize : (F.encode (.ofSignal (.command c))).Sized) :
    (F.encode (.ofSignal (.command c))).toSignal
      = .ok (.command { c with value := c.value.filter (· ≠ .null) }) := by
  have hdecode := decode_addressed haddressed (haddressed.topic_command hlive)
    haddressed.name rfl hvalue hsize
  exact Result.bind_eq_ok.mpr ⟨_, hdecode,
    Envelope.toSignal_command (c := { c with value := c.value.filter (· ≠ .null) })
      ⟨_, _, haddressed.type⟩⟩

/-- The response to an addressed command is read back, but for null. -/
theorem decode_response {r : CommandResponse} (haddressed : c.Addressed name)
    (htype : r.type = SignalType.response c.type) (hentity : r.entity = c.entity)
    (hlive : r.headers.channel = .live)
    (hvalue : ∀ p ∈ r.value, p.value.FloatFree ∧ F.medium.Allows 1 p.value.height)
    (hsize : (F.encode (.ofSignal (.response r))).Sized) :
    (F.encode (.ofSignal (.response r))).decode
        = .ok (.ofSignal (.response { r with value := r.value.filter (· ≠ .null) }))
    ∧ (Envelope.ofSignal (.response { r with value := r.value.filter (· ≠ .null) })).toSignal
        = .ok (.response { r with value := r.value.filter (· ≠ .null) }) := by
  rw [haddressed.type, SignalType.response_ofParts] at htype
  have htopic : (Envelope.ofSignal (.response r)).topic
      = Command.Addressed.topic c (SignalType.responseName name) := by
    rw [Command.Addressed.topic, ← hentity]
    exact Command.Addressed.topic_eq hlive htype (by decide)
  exact ⟨decode_addressed haddressed htopic
      (SignalType.slash_not_mem_responseName haddressed.name) rfl hvalue hsize,
    Envelope.toSignal_response (r := { r with value := r.value.filter (· ≠ .null) })
      ⟨_, _, htype⟩⟩

end wire

-- ================================================================== emissions

namespace Emission

/-- A command that asks a thing on the live channel leaves there, and is what
it was but for its headers. -/
theorem exists_asked (fresh : String) (c : Command) :
    ∃ h : Headers, (askThing fresh .live c).signal = .command { c with headers := h }
      ∧ h.channel = .live := by
  have hchannel : (c.headers.forLive.ensureCorrelationId fresh).channel = .live := by
    apply Headers.channel_of_get?
    rw [Headers.get?_channel_ensureCorrelationId]
    exact c.headers.get?_channel_forLive
  refine ⟨(c.headers.forLive.ensureCorrelationId fresh).forLive, ?_, Headers.channel_forLive _⟩
  show (Signal.command { c with headers := c.headers.forLive }).prepared fresh = _
  simp only [Signal.prepared, Signal.headers, Signal.withHeaders, hchannel, Signal.forChannel]

/-- The response to a command that was heard leaves as it is. -/
theorem signal_respond {heard : Command} {id : String}
    (hid : heard.headers.correlationId = some id) (status : Status)
    (value : Option Payload) :
    (respond heard status value).signal = .response (heard.response status value)
    ∧ (heard.response status value).headers = .forReply id := by
  have hheaders : heard.replyHeaders = .forReply id := by
    unfold Command.replyHeaders
    rw [hid]
    rfl
  refine ⟨?_, hheaders⟩
  have hresponse : (Signal.response (heard.response status value)).headers
      = .routed .live (some id) := hheaders
  have hfit : (Signal.response (heard.response status value)).forChannel .live
      = .response (heard.response status value) :=
    Signal.forChannel_routed hresponse
  have hchannel : (Signal.response (heard.response status value)).channel = .live := by
    rw [Signal.channel, hresponse]
    exact Headers.channel_forReply id
  show ((Signal.response (heard.response status value)).forChannel .live).leaving = _
  rw [hfit, Signal.leaving, hchannel, hfit]

end Emission

-- ================================================================== both ends

/-- The response to a command as it comes back under a correlation id. -/
def Command.answer (c : Command) (id : String) (status : Status) (value : Option Payload) :
    CommandResponse where
  type := SignalType.response c.type
  entity := c.entity
  path := c.path
  status := status
  value := value.filter (· ≠ .null)
  headers := .forReply id

/-- A command as it is heard: about the same thing, with this correlation id. -/
structure Command.HeardAs (c heard : Command) (id : String) : Prop where
  type : heard.type = c.type
  entity : heard.entity = c.entity
  path : heard.path = c.path
  id : heard.headers.correlationId = some id

section bothEnds

variable {F : WireFormat} {c heard : Command} {name id fresh : String}

/-- A command that asks a thing on the live channel is heard under the
correlation id with which it left. -/
theorem Command.Addressed.heardAs (h : c.Addressed name)
    (hid : (Emission.askThing fresh .live c).signal.correlationId = some id)
    (hsize : ((Emission.askThing fresh .live c).frame F).Sized)
    (hheard : ((Emission.askThing fresh .live c).frame F).toSignal = .ok (.command heard)) :
    c.HeardAs heard id := by
  obtain ⟨headers, hasked, hlive⟩ := Emission.exists_asked fresh c
  rw [Emission.frame, hasked] at hsize hheard
  rw [hasked] at hid
  obtain ⟨e, hdecode, hsignal⟩ := Result.bind_eq_ok.mp hheard
  have hreads := F.rereads_of_decode (F.fits_of_sized hsize) hdecode
  obtain ⟨htype, hentity, hpath, hheaders⟩ :=
    heard_of_rereads (h.withHeaders headers) hlive hreads hsignal
  exact ⟨htype, hentity, hpath, by rw [hheaders]; exact hid⟩

/-- It is heard if it can be read. -/
theorem Command.Addressed.exists_heard (h : c.Addressed name)
    (hvalue : ∀ p ∈ c.value, p.value.FloatFree ∧ F.medium.Allows 1 p.value.height)
    (hsize : ((Emission.askThing fresh .live c).frame F).Sized) :
    ∃ heard, ((Emission.askThing fresh .live c).frame F).toSignal = .ok (.command heard) := by
  obtain ⟨headers, hasked, hlive⟩ := Emission.exists_asked fresh c
  rw [Emission.frame, hasked] at hsize ⊢
  exact ⟨_, toSignal_command_frame (h.withHeaders headers) hlive hvalue hsize⟩

/-- The response that is given to it comes back. -/
theorem Command.HeardAs.decode_respond (h : c.HeardAs heard id) (haddressed : c.Addressed name)
    {status : Status} {value : Option Payload}
    (hvalue : ∀ p ∈ value, p.value.FloatFree ∧ F.medium.Allows 1 p.value.height)
    (hsize : ((Emission.respond heard status value).frame F).Sized) :
    ((Emission.respond heard status value).frame F).decode
        = .ok (.ofSignal (.response (c.answer id status value)))
    ∧ (Envelope.ofSignal (.response (c.answer id status value))).toSignal
        = .ok (.response (c.answer id status value)) := by
  obtain ⟨hleaves, hheaders⟩ := Emission.signal_respond h.id status value
  have hparts : heard.response status value
      = { c.answer id status value with value } := by
    rw [Command.answer, ← hheaders, Command.response, h.type, h.entity, h.path]
  rw [Emission.frame, hleaves, hparts] at hsize ⊢
  exact decode_response (r := { c.answer id status value with value }) haddressed rfl rfl
    (Headers.channel_forReply id) hvalue hsize

end bothEnds

-- ================================================================= end to end

namespace Dispatcher

variable {config : Config} {moves : List Move}

/-- A request that was registered has a call. -/
theorem Exchange.isSome_call? (x : Exchange config moves) :
    ((((ofConfig config).run x.before).enter x.now (x.request.prepared x.fresh)).call?
      ((ofConfig config).run x.before).nextCall).isSome := by
  let entered : Exchange config (x.before ++ [.enter x.now x.fresh x.request]) :=
    { x with after := [], moves_eq := rfl }
  have hstands := entered.stands List.not_mem_nil
  rw [run_append] at hstands
  change Stands (((ofConfig config).run x.before).enter x.now (x.request.prepared x.fresh))
    _ _ _ none none at hstands
  cases hstands with
  | sending hc ho => exact Option.isSome_of_eq_some hc
  | ended _ _ _ hv => cases hv

/-- A request that was registered hands its frame over. -/
theorem Exchange.handed_request (x : Exchange config moves) :
    ((ofConfig config).run x.before).handed (.request x.now x.fresh x.request)
      = [config.format.encode (.ofSignal (x.request.prepared x.fresh).signal)] := by
  have hformat : (((ofConfig config).run x.before).enter x.now
      (x.request.prepared x.fresh)).format = config.format :=
    (format_move _ (.enter x.now x.fresh x.request)).trans (format_run x.before _)
  simp only [handed, if_pos x.isSome_call?, encode, hformat]

/-- A transport that accepts frames takes it. -/
theorem Exchange.outbox_request (x : Exchange config moves)
    (ho : ((ofConfig config).run x.before).outbox.Accepting) :
    (((ofConfig config).run x.before).request x.now x.fresh x.request).outbox
      = { ((ofConfig config).run x.before).outbox with
          queue := ((ofConfig config).run x.before).outbox.queue
            ++ [config.format.encode (.ofSignal (x.request.prepared x.fresh).signal)] } := by
  have hformat : ((ofConfig config).run x.before).format = config.format := format_run x.before _
  rw [((sound_ofConfig config).run x.before).outbox_request ho x.isSome_call?, encode, hformat]

/-- Commands on the live channel are answered. For every request for a
command of a thing, asked through the handle of the devices and pending,

- its frame was handed over, and a transport that accepts frames has put it
  behind those that were accepted before; and a command is heard in it unless
  floating-point numbers or the nesting of its value keep it from being
  read;
- a client that hears the command may respond with any status and value, in
  either format. To respond is to emit one frame, which a transport that
  accepts frames puts behind those that were accepted before, and the
  responding call is then over and did not fail. This frame, taken in while
  the request is pending, ends the request with the response: it has that
  status and value (but for null), the entity and the path of the command and
  the correlation id of the request, and is live. Nothing else changes by it.

Binary frames must not be so large that a head cannot count their parts. -/
theorem live_commands_are_answered {config : Config} {moves : List Move}
    (x : Exchange config moves) {c : Command} {name : String}
    (haddressed : c.Addressed name) (hrequest : x.request = Handle.live.thingRequest c)
    (hpending : x.Pending)
    (hsize : ((Emission.askThing x.fresh .live c).frame config.format).Sized) :
    let asked := (Emission.askThing x.fresh .live c).frame config.format
    let a := (ofConfig config).run x.before
    a.askThing x.now x.fresh .live c = a.operate (.request x.now x.fresh x.request)
    ∧ a.handed (.request x.now x.fresh x.request) = [asked]
    ∧ (a.outbox.Accepting →
        (a.askThing x.now x.fresh .live c).outbox
          = { a.outbox with queue := a.outbox.queue ++ [asked] })
    ∧ ((∀ p ∈ c.value, p.value.FloatFree ∧ config.format.medium.Allows 1 p.value.height) →
        ∃ heard, asked.toSignal = .ok (.command heard))
    ∧ ∀ heard, asked.toSignal = .ok (.command heard) →
      ∀ (b : Dispatcher) (now : Nat) (status : Status) (value : Option Payload),
        (∀ p ∈ value, p.value.FloatFree ∧ b.format.medium.Allows 1 p.value.height) →
        let respond := Emission.respond heard status value
        let reply := respond.frame b.format
        reply.Sized →
        b.handed (respond.operation b.format now) = [reply]
        ∧ b.respond now heard status value = b.emitFrame now reply
        ∧ (b.Sound → b.outbox.Accepting →
            (b.respond now heard status value).outbox
                = { b.outbox with queue := b.outbox.queue ++ [reply] }
            ∧ (b.respond now heard status value).result? b.nextCall = some (.ok none))
        ∧ (c.answer x.key status value).headers.correlationId = some x.key
        ∧ (c.answer x.key status value).headers.channel = .live
        ∧ x.Ends reply (.ok (some (.response (c.answer x.key status value)))) := by
  have hkeyed := x.keyed
  rw [hrequest] at hkeyed
  refine ⟨?_, ?_, fun haccepting => ?_, fun hvalue => haddressed.exists_heard hvalue hsize, ?_⟩
  · rw [hrequest]
    exact (Emission.askThing x.fresh .live c).start_eq _ x.now
  · rw [x.handed_request, hrequest]
    rfl
  · have hqueued := x.outbox_request haccepting
    rw [hrequest] at hqueued
    exact hqueued
  · intro heard hheard b now status value hvalue respond reply hreply
    have hheardAs := haddressed.heardAs hkeyed hsize hheard
    obtain ⟨hdecode, hsignal⟩ := hheardAs.decode_respond haddressed hvalue hreply
    have hid := Headers.correlationId_forReply x.key
    have hends := hpending.ends hdecode hid hsignal
    rw [hrequest] at hends
    exact ⟨rfl, respond.start_eq b now,
      fun hs haccepting => hs.start_accepting haccepting (x := respond) rfl now, hid,
      Headers.channel_forReply x.key, hends⟩

/-- A command to a gate, with a header that only the server may set. -/
def openGate : Command where
  type := "things.commands:open"
  entity := Frame.gate
  path := .root
  value := some (.text "wide")
  headers := .ofPairs [("response-required", "true")]

/-- A client that sends it and nothing else. -/
def asking : List Operation := [.request 0 "a" (Handle.live.thingRequest openGate)]

/-- The request for it, whose frame is accepted at once. -/
def openingGate : Exchange {} ((ofConfig {}).service asking) where
  before := []
  now := 0
  fresh := "a"
  request := Handle.live.thingRequest openGate
  key := "a"
  reply := ⟨1, "a", Span.deadline 0 (.ms 60000), none⟩
  after := ((ofConfig {}).service asking).drop 1
  moves_eq := rfl
  keyed := by decide
  registered := rfl

/-- The frame of the command is received. The gate hears it and says that it is
closed; this is what it hands to the transport, and what the client that asked is
told. -/
theorem openGate_is_answered :
    let asked := (Emission.askThing "a" .live openGate).frame .json
    ((ofConfig {}).askThing 0 "a" .live openGate).outbox.queue = [asked]
    ∧ ∃ heard, asked.toSignal = .ok (.command heard)
      ∧ ∃ reply,
        ((ofConfig {}).respond 3 heard ⟨423⟩ (some (.text "closed"))).outbox.queue = [reply]
        ∧ ((ofConfig {}).serve (asking ++ [.inbound 5 reply])).result? 0
          = some (.ok (some (.response
              (openGate.answer "a" ⟨423⟩ (some (.text "closed")))))) := by
  intro asked
  have haddressed : openGate.Addressed "open" :=
    ⟨by decide, by decide, by decide, by decide, by decide⟩
  have haccepted : openingGate.answer? = some (.ok ()) := rfl
  have hpending : openingGate.Pending := by
    refine ⟨fun hdrop => ?_, fun err herr => ?_, rfl⟩
    · obtain ⟨now, hcancel⟩ :=
        cancel_of_mem_service asking (List.mem_of_mem_drop hdrop)
      cases hcancel with
      | tail _ hcancel => cases hcancel
    · rw [haccepted] at herr
      cases herr
  have hvalue : ∀ text, ∀ p ∈ some (Payload.text text),
      p.value.FloatFree ∧ WireFormat.json.medium.Allows 1 p.value.height := by
    intro text p hp
    obtain rfl := Option.some.inj hp
    have hflat := Payload.flat_text text
    exact ⟨hflat.floatFree, WireFormat.json.allows_flat hflat⟩
  have haccepting : (ofConfig {}).outbox.Accepting := ⟨rfl, rfl, by decide⟩
  obtain ⟨-, -, hqueued, hhears, hanswers⟩ :=
    live_commands_are_answered openingGate haddressed rfl hpending trivial
  obtain ⟨heard, hheard⟩ := hhears (hvalue "wide")
  obtain ⟨-, -, hresponds, -, -, hends⟩ := hanswers heard hheard (ofConfig {}) 3 ⟨423⟩
    (some (.text "closed")) (hvalue "closed") trivial
  obtain ⟨hreply, -⟩ := hresponds (sound_ofConfig {}) haccepting
  exact ⟨congrArg Outbox.queue (hqueued haccepting), heard, hheard, _,
    congrArg Outbox.queue hreply, hends.serve 5 asking rfl haccepted⟩

end Dispatcher

end DeviceTwin
