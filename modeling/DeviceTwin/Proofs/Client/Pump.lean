/-
What becomes of frames that arrive.

What a frame is for a client is a matter of the frame and of what is pending
when the pump takes it out of the inbox (`fate`). Routing follows it
(`Consistent.route_eq`): a remark and what cannot be read leave the client as
it is, because nothing was due before; an answer settles one subscription; an
event goes to the handlers that are registered then, and another signal to
the application.

A run takes the frames out in the order in which they arrived, and what the
application has received and the handlers were told is what those frames were
when they were taken (`frames_are_routed_once`). So nothing is lost, nothing
comes twice and nothing overtakes, whatever happens in between, as long as
the pump runs and the application listens.
-/
import DeviceTwin.Proofs.Client.Run
import DeviceTwin.Proofs.Frame

namespace DeviceTwin

/-- A subscription that is pending is that of a call. -/
theorem Dispatcher.Sound.exists_call {d : Dispatcher} (hs : d.Sound) {e : Correlator.Entry}
    (he : e ∈ d.correlator.entries) : ∃ call ∈ d.calls, call.state.subscription? = some e := by
  obtain ⟨r, hr, -, rfl⟩ := hs.table.mem_entries.mp he
  refine List.mem_filterMap.mp ?_
  rw [hs.held]
  exact List.mem_map_of_mem hr

/-- An envelope is never taken for a remark. -/
theorem WireFormat.isRemark_encode (F : WireFormat) (e : Envelope) :
    (F.encode e).isRemark = false := by
  cases F with
  | json =>
      show ((Text.trimStart (String.ofList (Json.write e.record)).toList).head? != some '\x7b')
        = false
      rw [String.toList_ofList]
      rfl
  | msgpack => rfl

namespace Client

variable {η : Type} {c : Client η} {f : Frame} {rest : List Frame}

-- ===================================================================== one frame

/-- What a frame is for a client. -/
inductive Fate where
  /-- A remark of the connection. -/
  | remark
  /-- No envelope, or one that nobody waits for and that holds no signal. -/
  | unreadable (e : ProtocolError)
  /-- The answer to a subscription that is pending. -/
  | answers (e : Correlator.Entry) (envelope : Envelope)
  /-- An event that nobody waits for. -/
  | event (e : Event)
  /-- Another signal that nobody waits for. -/
  | signal (s : Signal)

/-- What a frame would be for a client if it were taken out now. -/
def fate (c : Client η) (f : Frame) : Fate :=
  if f.isRemark then .remark
  else match f.decode with
    | .error e => .unreadable e
    | .ok envelope =>
        match envelope.correlationId.bind c.dispatcher.correlator.pending? with
        | some e => .answers e envelope
        | none =>
            match envelope.toSignal with
            | .error e => .unreadable e
            | .ok (.event e) => .event e
            | .ok s => .signal s

/-- What the application gets to see. -/
def Fate.signal? : Fate → Option Signal
  | signal s => some s
  | remark | unreadable _ | answers .. | event _ => none

/-- What the handlers are called for. -/
def Fate.event? : Fate → Option Event
  | event e => some e
  | remark | unreadable _ | answers .. | signal _ => none

/-- What comes of a frame. -/
def Fate.effect (c : Client η) : Fate → Client η × Routed η
  | remark => (c, .remark)
  | unreadable e => (c, .unreadable e)
  | answers e envelope =>
      (c.act fun d now =>
        { d with correlator := d.correlator.resolve e (.ok envelope) }.settle now, .answered)
  | event e => (c, .event (c.registry.deliveries e))
  | signal s => (c.forward s, .unmatched s)

/-- A frame that no call waits for leaves a client as it is. -/
theorem Consistent.takeIn_eq (h : c.Consistent) {envelope : Envelope}
    (hf : f.decode = .ok envelope)
    (hfree : envelope.correlationId.bind c.dispatcher.correlator.pending? = none) :
    c.takeIn f = (c, envelope.toSignal.map some) := by
  have htake : c.dispatcher.take f = (c.dispatcher, envelope.toSignal.map some) := by
    simp only [Dispatcher.take, hf, Correlator.publish, hfree]
  simp only [takeIn, Dispatcher.inbound, htake, h.rest.settle_eq]

/-- Routing follows the fate. -/
theorem Consistent.route_eq (h : c.Consistent) (f : Frame) :
    c.route f = (c.fate f).effect c := by
  unfold route fate
  split
  case isTrue => rfl
  case isFalse =>
    cases hf : f.decode with
    | error e =>
        have htaken : c.takeIn f = (c, .error e) := by
          simp only [takeIn, Dispatcher.inbound, Dispatcher.take, hf, h.rest.settle_eq]
        simp only [htaken, Fate.effect]
    | ok envelope =>
        cases hp : envelope.correlationId.bind c.dispatcher.correlator.pending? with
        | some e =>
            simp only [takeIn, Dispatcher.inbound, Dispatcher.take, hf, Correlator.publish, hp,
              Fate.effect, act]
        | none =>
            simp only [h.takeIn_eq hf hp, hp]
            cases envelope.toSignal with
            | error e => rfl
            | ok s => cases s <;> rfl

/-- The next frame is taken out, and what it is for the client becomes of it. -/
theorem Consistent.pump_eq (h : c.Consistent) (hin : c.inbox = f :: rest) :
    c.pump = some ((c.fate f).effect { c with inbox := rest }) := by
  have hnext : ({ c with inbox := rest } : Client η).Consistent := ⟨h.calls, h.rest⟩
  unfold pump
  rw [hin]
  exact congrArg some (hnext.route_eq f)

theorem Consistent.operate_pump (h : c.Consistent) (hin : c.inbox = f :: rest) :
    c.operate .pump = ((c.fate f).effect { c with inbox := rest }).1 := by
  show (c.pump.map (·.1)).getD c = _
  rw [h.pump_eq hin]
  rfl

/-- What becomes of a frame touches neither the inbox nor whether the application
listens. -/
theorem effect_keeps (c : Client η) (t : Fate) :
    (t.effect c).1.inbox = c.inbox ∧ (t.effect c).1.listening = c.listening := by
  cases t with
  | signal s =>
      show (c.forward s).inbox = c.inbox ∧ (c.forward s).listening = c.listening
      unfold forward
      split <;> exact ⟨rfl, rfl⟩
  | remark | unreadable | answers | event => exact ⟨rfl, rfl⟩

/-- An application that listens gets a signal that nobody waited for, and nothing else. -/
theorem unmatched_effect (hl : c.listening = true) (t : Fate) :
    (t.effect c).1.unmatched = c.unmatched ++ t.signal?.toList := by
  cases t with
  | signal s =>
      show (c.forward s).unmatched = _
      unfold forward
      rw [if_pos hl]
      rfl
  | remark | unreadable | answers | event => exact (List.append_nil _).symm

-- ================================================================== many frames

/-- A client whose calls agree with the table and whose application listens. -/
structure Attended (c : Client η) : Prop where
  consistent : c.Consistent
  listening : c.listening = true

theorem attended_start (config : Config) : Attended (start config : Client η) :=
  ⟨consistent_start config, rfl⟩

/-- The frames that get into the inbox. -/
def accepts (c : Client η) : Operation η → List Frame
  | .offer f => if (c.offer f).2 = .sent then [f] else []
  | _ => []

/-- The frames that the pump takes out, each with the client that it is taken out for. -/
def takes (c : Client η) : Operation η → List (Client η × Frame)
  | .pump => c.inbox.head?.toList.map (c, ·)
  | _ => []

/-- The signals that the application gets. -/
def gets (c : Client η) : Operation η → List Signal
  | .collect => c.collect.2.2
  | _ => []

/-- The events that are dispatched, each as the list of those who are called. -/
def tells (c : Client η) : Operation η → List (List (Delivery η))
  | .pump =>
      match c.pump with
      | some (_, .event deliveries) => [deliveries]
      | _ => []
  | _ => []

theorem takes_pump (hin : c.inbox = f :: rest) : c.takes .pump = [(c, f)] := by
  simp only [takes, hin, List.head?_cons, Option.toList_some, List.map_cons, List.map_nil]

theorem filterMap_takes_pump {α : Type} (hin : c.inbox = f :: rest)
    (g : Client η × Frame → Option α) : (c.takes .pump).filterMap g = (g (c, f)).toList := by
  rw [takes_pump hin]
  cases hg : g (c, f) with
  | none => exact List.filterMap_cons_none hg
  | some a => exact List.filterMap_cons_some hg

/-- The handlers are told of an event, and of nothing else. -/
theorem Consistent.tells_pump (h : c.Consistent) (hin : c.inbox = f :: rest) :
    c.tells .pump = ((c.fate f).event?.map c.registry.deliveries).toList := by
  simp only [tells, h.pump_eq hin]
  cases c.fate f <;> rfl

/-- An operation that has nothing to do with what arrives. -/
structure Aside (c : Client η) (op : Operation η) : Prop where
  inbox : (c.operate op).inbox = c.inbox
  unmatched : (c.operate op).unmatched = c.unmatched
  listening : (c.operate op).listening = c.listening
  accepts : c.accepts op = []
  takes : c.takes op = []
  gets : c.gets op = []
  tells : c.tells op = []

/-- The operations of calls are aside. -/
theorem aside_of_act {op : Operation η} (operation : Dispatcher → Nat → Dispatcher)
    (heq : c.operate op = c.act operation) (haccepts : c.accepts op = [])
    (htakes : c.takes op = []) (hgets : c.gets op = []) (htells : c.tells op = []) :
    Aside c op := by
  refine ⟨?_, ?_, ?_, haccepts, htakes, hgets, htells⟩ <;> rw [heq] <;> rfl

/-- So is the pump when there is no frame to take out. -/
theorem aside_pump (hin : c.inbox = []) : Aside c .pump := by
  have hpump : c.pump = none := by
    unfold pump
    rw [hin]
  have heq : c.operate .pump = c := by
    show (c.pump.map (·.1)).getD c = c
    rw [hpump]
    rfl
  refine ⟨?_, ?_, ?_, rfl, ?_, rfl, ?_⟩
  · rw [heq]
  · rw [heq]
  · rw [heq]
  · simp only [takes, hin, List.head?_nil, Option.toList_none, List.map_nil]
  · simp only [tells, hpump]

/-- A frame that is offered gets in behind the others, or not at all. -/
theorem offer_cases (c : Client η) (f : Frame) :
    c.offer f = ({ c with inbox := c.inbox ++ [f] }, .sent) ∨ Aside c (.offer f) := by
  have haside : ∀ o, o ≠ .sent → c.offer f = (c, o) → Aside c (.offer f) := by
    intro o ho heq
    have hsame : c.operate (.offer f) = c := congrArg Prod.fst heq
    refine ⟨?_, ?_, ?_, ?_, rfl, rfl, rfl⟩
    · rw [hsame]
    · rw [hsame]
    · rw [hsame]
    · rw [accepts, heq, if_neg ho]
  by_cases hshut : (!(c.inboxOpen && c.pumpStarted)) = true
  · exact .inr (haside .closed nofun (if_pos hshut))
  · by_cases hroom : c.inbox.length < c.config.inboundCapacity
    · exact .inl ((if_neg hshut).trans (if_pos hroom))
    · exact .inr (haside .full nofun ((if_neg hshut).trans (if_neg hroom)))

/-- With what arrives three operations have to do, and those that stop it. -/
theorem operate_cases (c : Client η) {op : Operation η} (hop : op.keepsPump = true) :
    (op = .pump ∧ ∃ f rest, c.inbox = f :: rest)
      ∨ op = .collect
      ∨ (∃ f, op = .offer f ∧ c.offer f = ({ c with inbox := c.inbox ++ [f] }, .sent))
      ∨ Aside c op := by
  cases op with
  | pump =>
      cases hin : c.inbox with
      | nil => exact .inr (.inr (.inr (aside_pump hin)))
      | cons f rest => exact .inl ⟨rfl, f, rest, rfl⟩
  | collect => exact .inr (.inl rfl)
  | offer f =>
      obtain hsent | haside := c.offer_cases f
      · exact .inr (.inr (.inl ⟨f, rfl, hsent⟩))
      · exact .inr (.inr (.inr haside))
  | request fresh r =>
      exact .inr (.inr (.inr (aside_of_act (·.request · fresh r) rfl rfl rfl rfl rfl)))
  | emitFrame f => exact .inr (.inr (.inr (aside_of_act (·.emitFrame · f) rfl rfl rfl rfl rfl)))
  | cancel id => exact .inr (.inr (.inr (aside_of_act (·.cancel · id) rfl rfl rfl rfl rfl)))
  | receive n => exact .inr (.inr (.inr (aside_of_act (·.receive · n |>.1) rfl rfl rfl rfl rfl)))
  | disconnect => exact .inr (.inr (.inr (aside_of_act Dispatcher.disconnect rfl rfl rfl rfl rfl)))
  | endCalls => exact .inr (.inr (.inr (aside_of_act Dispatcher.shutdown rfl rfl rfl rfl rfl)))
  | advance | takeIn | trySend | register | deregister | closeInbox =>
      exact .inr (.inr (.inr ⟨rfl, rfl, rfl, rfl, rfl, rfl, rfl⟩))
  | stopListening | stopPump | shutdown => cases hop

section Steps

variable {op : Operation η}

theorem Attended.operate (h : c.Attended) (hop : op.keepsPump = true) :
    (c.operate op).Attended := by
  refine ⟨h.consistent.operate op, ?_⟩
  obtain ⟨rfl, f, rest, hin⟩ | rfl | ⟨f, rfl, hsent⟩ | haside := c.operate_cases hop
  · rw [h.consistent.operate_pump hin, (effect_keeps _ _).2]
    exact h.listening
  · exact h.listening
  · show (c.offer f).1.listening = true
    rw [hsent]
    exact h.listening
  · rw [haside.listening]
    exact h.listening

/-- What is taken out of the inbox was in it or got into it. -/
theorem Attended.step_inbox (h : c.Attended) (hop : op.keepsPump = true) :
    (c.takes op).map (·.2) ++ (c.operate op).inbox = c.inbox ++ c.accepts op := by
  obtain ⟨rfl, f, rest, hin⟩ | rfl | ⟨f, rfl, hsent⟩ | haside := c.operate_cases hop
  · rw [h.consistent.operate_pump hin, takes_pump hin, (effect_keeps _ _).1, hin]
    exact (List.append_nil _).symm
  · exact (List.append_nil _).symm
  · show (c.offer f).1.inbox = c.inbox ++ if (c.offer f).2 = .sent then [f] else []
    rw [hsent]
    rfl
  · rw [haside.takes, haside.inbox, haside.accepts]
    exact (List.append_nil _).symm

/-- What the application gets was there for it or has just been taken out. -/
theorem Attended.step_unmatched (h : c.Attended) (hop : op.keepsPump = true) :
    c.gets op ++ (c.operate op).unmatched
      = c.unmatched ++ (c.takes op).filterMap fun t => (t.1.fate t.2).signal? := by
  obtain ⟨rfl, f, rest, hin⟩ | rfl | ⟨f, rfl, hsent⟩ | haside := c.operate_cases hop
  · have hl : ({ c with inbox := rest } : Client η).listening = true := h.listening
    rw [h.consistent.operate_pump hin, filterMap_takes_pump hin, unmatched_effect hl]
    rfl
  · rfl
  · show (c.offer f).1.unmatched = c.unmatched ++ []
    rw [hsent, List.append_nil]
  · rw [haside.gets, haside.unmatched, haside.takes]
    exact (List.append_nil _).symm

/-- The handlers are told of the events that are taken out. -/
theorem Attended.step_told (h : c.Attended) (hop : op.keepsPump = true) :
    c.tells op
      = (c.takes op).filterMap fun t => (t.1.fate t.2).event?.map t.1.registry.deliveries := by
  obtain ⟨rfl, f, rest, hin⟩ | rfl | ⟨f, rfl, -⟩ | haside := c.operate_cases hop
  · rw [filterMap_takes_pump hin]
    exact h.consistent.tells_pump hin
  · rfl
  · rfl
  · rw [haside.tells, haside.takes]
    rfl

end Steps

/-- An attended client stays so. -/
theorem Attended.serve (ops : List (Operation η)) :
    ∀ {c : Client η}, c.Attended → (∀ op ∈ ops, op.keepsPump = true) → (c.serve ops).Attended := by
  induction ops with
  | nil => exact fun h _ => h
  | cons op ops ih =>
      intro c h hops
      obtain ⟨hop, hops⟩ := List.forall_mem_cons.mp hops
      exact ih (h.operate hop) hops

/-- What an answer is: its envelope is read, and a call waits under its correlation id. -/
theorem Consistent.answers_inv (h : c.Consistent) {e : Correlator.Entry} {envelope : Envelope}
    (hfate : c.fate f = .answers e envelope) :
    (∃ call ∈ c.dispatcher.calls, call.state.subscription? = some e)
      ∧ f.decode = .ok envelope ∧ envelope.correlationId = some e.key := by
  unfold fate at hfate
  split at hfate
  case isTrue => cases hfate
  case isFalse =>
    split at hfate
    case h_1 => cases hfate
    case h_2 hf =>
      split at hfate
      case h_1 hp =>
        cases hfate
        obtain ⟨key, hkey, hp⟩ := Option.bind_eq_some_iff.mp hp
        obtain ⟨he, rfl⟩ := h.calls.table.pending?_eq_some.mp hp
        exact ⟨h.calls.exists_call he, hf, hkey⟩
      case h_2 =>
        -- nobody waits for it
        split at hfate <;> cases hfate

/-- The pump neither loses nor doubles nor reorders. In every run of a client that
does not stop it, and in which the application goes on listening,

- the frames that were taken out, and after them those still in the inbox, are the
  frames that got in;
- the signals that the application got, and after them those that wait for it, are
  the signals of the frames that nobody waited for when they were taken out, events
  apart;
- the handlers were told of each event that nobody waited for, and those were called
  that were registered when it was taken out (none if it is no change);
- a frame that answers is read and ends the subscription of a call, and then what is
  due happens to the calls; that is all;
- a remark or a frame that cannot be read leaves a client that never had it, and the
  run goes on as if it had not been there. -/
theorem frames_are_routed_once (config : Config) {ops : List (Operation η)}
    (hops : ∀ op ∈ ops, op.keepsPump = true) :
    let c : Client η := start config
    let taken := c.history takes ops
    taken.map (·.2) ++ (c.serve ops).inbox = c.history accepts ops
    ∧ c.history gets ops ++ (c.serve ops).unmatched
      = taken.filterMap (fun t => (t.1.fate t.2).signal?)
    ∧ c.history tells ops
      = taken.filterMap (fun t => (t.1.fate t.2).event?.map t.1.registry.deliveries)
    ∧ ∀ before after, ops = before ++ .pump :: after →
      let t := c.serve before
      ∀ f rest, t.inbox = f :: rest →
        (∀ e envelope, t.fate f = .answers e envelope →
          ((∃ call ∈ t.dispatcher.calls, call.state.subscription? = some e)
            ∧ f.decode = .ok envelope ∧ envelope.correlationId = some e.key)
          ∧ t.tells .pump = []
          ∧ t.operate .pump
            = { t with
                inbox := rest
                dispatcher := { t.dispatcher with
                  correlator := t.dispatcher.correlator.resolve e (.ok envelope) }.settle
                    t.now })
        ∧ ((t.fate f = .remark ∨ ∃ e, t.fate f = .unreadable e) →
          t.tells .pump = []
          ∧ t.operate .pump = { t with inbox := rest }
          ∧ c.serve ops = ({ t with inbox := rest } : Client η).serve after) := by
  intro c taken
  have hc : c.Attended := attended_start config
  have hkept : ∀ (c : Client η) op, c.Attended → op.keepsPump = true → (c.operate op).Attended :=
    fun _ _ => Attended.operate
  have hframes := history_conserved hkept (fun _ _ => Attended.step_inbox) ops c hc hops
  have hsignals := history_conserved hkept (fun _ _ => Attended.step_unmatched) ops c hc hops
  have htold := history_congr hkept (fun _ _ => Attended.step_told) ops hc hops
  rw [← history_read List.map_nil fun _ _ => List.map_append] at hframes
  rw [← history_read List.filterMap_nil fun _ _ => List.filterMap_append] at hsignals htold
  refine ⟨hframes, hsignals, htold, ?_⟩
  rintro before after rfl t f rest hin
  have ht : t.Consistent :=
    (hc.serve before fun op hop => hops op (List.mem_append_left _ hop)).consistent
  have htells := ht.tells_pump hin
  have hpump := ht.operate_pump hin
  have hrun : c.serve (before ++ .pump :: after) = (t.operate .pump).serve after :=
    c.serve_append before (.pump :: after)
  refine ⟨fun e envelope hfate => ⟨ht.answers_inv hfate, ?_⟩, ?_⟩
  · rw [hfate] at htells hpump
    exact ⟨htells, hpump⟩
  · rintro (hfate | ⟨e, hfate⟩)
    · rw [hfate] at htells hpump
      exact ⟨htells, hpump, hrun.trans (congrArg (Client.serve · after) hpump)⟩
    · rw [hfate] at htells hpump
      exact ⟨htells, hpump, hrun.trans (congrArg (Client.serve · after) hpump)⟩

/-- A command for a device. -/
def closingOrder : Envelope where
  topic := ⟨Frame.gate, .things, .live, .commands, some "close"⟩
  headers := .empty
  path := .root
  value := none
  status := none
  revision := none
  timestamp := none
  extra := none

/-- The signal in it. -/
def closeGate : Signal :=
  .command
    { type := "things.commands:close"
      entity := Frame.gate
      path := .root
      value := none
      headers := .ofPairs [("channel", "live")] }

/-- A remark and a frame arrive, the pump takes both out, and the application
collects. -/
def afterRemark (f : Frame) : List (Operation Unit) :=
  [.offer (.text "ready"), .offer f, .pump, .pump, .collect]

/-- The remark is passed over, and the command is what the application gets. -/
theorem remark_is_passed_over :
    (start {} : Client Unit).history gets (afterRemark (WireFormat.json.encode closingOrder))
      = [closeGate] := by
  have hdecode : (WireFormat.json.encode closingOrder).decode = .ok closingOrder :=
    WireFormat.decode_flat ⟨by decide, by decide, by decide, by decide, by decide⟩ nofun
  have hremark : (WireFormat.json.encode closingOrder).isRemark = false :=
    WireFormat.isRemark_encode _ _
  generalize WireFormat.json.encode closingOrder = command at hdecode hremark ⊢
  have hkept : ∀ op ∈ afterRemark command, op.keepsPump = true := by
    simp [afterRemark, Operation.keepsPump]
  obtain ⟨-, hsignals, -, -⟩ := frames_are_routed_once {} hkept
  let first : Client Unit := { start {} with inbox := [.text "ready", command] }
  let second : Client Unit := { start {} with inbox := [command] }
  have htaken : (start {} : Client Unit).history takes (afterRemark command)
      = [(first, .text "ready"), (second, command)] := rfl
  have hready : (first.fate (.text "ready")).signal? = none := rfl
  have hcommand : (second.fate command).signal? = some closeGate := by
    simp only [fate, hremark, hdecode]
    rfl
  have hunmatched : ((start {} : Client Unit).serve (afterRemark command)).unmatched = [] := rfl
  rw [htaken, hunmatched, List.append_nil] at hsignals
  simpa only [List.filterMap_cons, hready, hcommand, List.filterMap_nil] using hsignals

end Client

end DeviceTwin
