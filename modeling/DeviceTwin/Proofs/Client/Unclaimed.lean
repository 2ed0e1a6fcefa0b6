/-
Signals that no call waits for, and who hears of them.

The way of such a signal is chosen in two places. The pump looks at the kind: an
event goes to the handlers, any other signal to the application. The handlers
are called by the name: it says what was done to the entity, or nothing that
they know. The pump does not learn of the second choice, so the two together
leave a gap (`unclaimed_signals_reach_someone_or_are_no_change`): an event whose
name says nothing goes to the handlers, none of them is called, and the
application is not told either.
-/
import DeviceTwin.Proofs.Client.Pump

namespace DeviceTwin

/-- What a change says is what the event says, and what was done is in the name. -/
theorem Change.ofEvent?_eq_some {e : Event} {action : ChangeAction}
    (h : ChangeAction.ofEventName? e.name = some action) :
    ofEvent? e = some
      ⟨action, e.entity, e.path, e.value, e.revision, e.timestamp, e.extra, e.headers⟩ := by
  rw [ofEvent?, h]
  rfl

theorem Registry.deliveries_of_change {η : Type} (r : Registry η) {e : Event} {change : Change}
    (h : Change.ofEvent? e = some change) :
    r.deliveries e = (r.targets change).map fun t => ⟨t.handler, change⟩ := by
  rw [deliveries, h]

/-- Nobody is called for an event whose name says nothing. -/
theorem Registry.deliveries_of_no_change {η : Type} (r : Registry η) {e : Event}
    (h : ChangeAction.ofEventName? e.name = none) : r.deliveries e = [] := by
  rw [deliveries, Change.ofEvent?, h]
  rfl

namespace Client

variable {η : Type} {c : Client η} {f : Frame} {s : Signal} {rest : List Frame}

/-- A frame holds a signal, and no call waits for it. -/
structure Unclaimed (c : Client η) (f : Frame) (s : Signal) : Prop where
  heard : f.isRemark = false
  free : ∃ envelope, f.decode = .ok envelope
    ∧ envelope.correlationId.bind c.dispatcher.correlator.pending? = none
    ∧ envelope.toSignal = .ok s

/-- The way that the pump chooses by the kind of a signal. -/
def Fate.ofSignal : Signal → Fate
  | .event e => .event e
  | s => .signal s

theorem Unclaimed.fate_eq (h : c.Unclaimed f s) : c.fate f = .ofSignal s := by
  obtain ⟨envelope, hdecode, hfree, hsignal⟩ := h.free
  unfold fate
  simp only [h.heard, Bool.false_eq_true, if_false, hdecode, hfree, hsignal]
  cases s <;> rfl

/-- Nothing else is done with it. -/
theorem Unclaimed.pump_eq (h : c.Unclaimed f s) (hc : c.Consistent) (hin : c.inbox = f :: rest) :
    c.pump = some ((Fate.ofSignal s).effect { c with inbox := rest }) := by
  rw [hc.pump_eq hin, h.fate_eq]

theorem Fate.ofSignal_eq_signal (h : ∀ e, s ≠ .event e) : ofSignal s = .signal s := by
  cases s with
  | event e => exact absurd rfl (h e)
  | command | response | error | acknowledgement | acknowledgements => rfl

/-- Whatever a client has been through, when the pump takes out a signal that no
call waits for and the application listens: an event whose name says what was
done goes, as a change, to every handler for its entity; a signal of another kind
goes to the application; and an event whose name says nothing is heard of by
nobody. The client stays as it is but for what the application gets. -/
theorem unclaimed_signals_reach_someone_or_are_no_change (config : Config)
    (ops : List (Operation η)) :
    let c : Client η := (start config).serve ops
    c.listening = true → ∀ f rest s, c.inbox = f :: rest → c.Unclaimed f s →
      (∀ e action, s = .event e → ChangeAction.ofEventName? e.name = some action →
        ∃ change, Change.ofEvent? e = some change ∧ change.action = action
          ∧ c.pump = some ({ c with inbox := rest },
              .event ((c.registry.targets change).map fun t => ⟨t.handler, change⟩)))
      ∧ ((∀ e, s ≠ .event e) →
          c.pump = some ({ c with inbox := rest, unmatched := c.unmatched ++ [s] },
            .unmatched s))
      ∧ ∀ e, s = .event e → ChangeAction.ofEventName? e.name = none →
          c.pump = some ({ c with inbox := rest }, .event []) := by
  intro c hlistening f rest s hin hs
  have hpump := hs.pump_eq ((consistent_start config).serve ops) hin
  refine ⟨?_, fun hkind => ?_, ?_⟩
  · rintro e action rfl haction
    have hchange := Change.ofEvent?_eq_some haction
    refine ⟨_, hchange, rfl, hpump.trans ?_⟩
    simp only [Fate.ofSignal, Fate.effect, c.registry.deliveries_of_change hchange]
  · rw [hpump, Fate.ofSignal_eq_signal hkind]
    simp only [Fate.effect, forward, hlistening, if_true]
  · rintro e rfl hname
    rw [hpump]
    simp only [Fate.ofSignal, Fate.effect, c.registry.deliveries_of_no_change hname]

/-- An event at the gate of the garden, by its name. -/
def atGate (name : String) : Event where
  type := SignalType.ofParts .things "events" name
  entity := Frame.gate
  path := .root
  value := none
  revision := 0
  timestamp := none
  extra := none
  headers := .empty

/-- Its frame. -/
def atGateFrame (name : String) : Frame :=
  WireFormat.json.encode (.ofSignal (.event (atGate name)))

/-- A client that has a handler for all entities and no calls, when a frame has
come. -/
def visited (f : Frame) : Client Unit := (start {}).serve [.register none (), .offer f]

/-- What was done to the gate. -/
def gateMoved : Change := ⟨.updated, Frame.gate, .root, none, 0, none, none, .empty⟩

/-- The event comes out of its frame, and nobody waits for it. -/
theorem unclaimed_atGate {name : String} (hname : '/' ∉ name.toList) :
    (visited (atGateFrame name)).Unclaimed (atGateFrame name) (.event (atGate name)) := by
  have haction : SignalType.shortName (atGate name).type = name :=
    SignalType.shortName_ofParts .things name (by decide)
  have hgate : (Topic.make Frame.gate .things .twin .events).Proper :=
    ⟨by decide, by decide, by decide, nofun, nofun⟩
  have htopic : (Envelope.ofSignal (.event (atGate name))).topic.Proper :=
    (hgate.make _ _ _).withAction (haction.symm ▸ hname)
  exact ⟨WireFormat.isRemark_encode _ _, _, WireFormat.decode_flat htopic nofun, rfl,
    Envelope.toSignal_event ⟨.things, name, rfl⟩⟩

/-- The handler hears that the gate was moved. -/
theorem move_is_heard_of :
    (visited (atGateFrame "positionModified")).pump
      = some ({ visited (atGateFrame "positionModified") with inbox := [] },
          .event [⟨(), gateMoved⟩]) := by
  obtain ⟨hmoved, -, -⟩ := unclaimed_signals_reach_someone_or_are_no_change {} _ rfl
    (atGateFrame "positionModified") [] _ rfl (unclaimed_atGate (by decide))
  obtain ⟨change, hchange, -, hpump⟩ := hmoved _ .updated rfl (by decide)
  obtain rfl : gateMoved = change := Option.some.inj ((by decide : _ = _).trans hchange)
  exact hpump

/-- Nobody hears of the creaking. -/
theorem creak_is_lost :
    (visited (atGateFrame "creaked")).Unclaimed (atGateFrame "creaked")
        (.event (atGate "creaked"))
    ∧ (visited (atGateFrame "creaked")).listening = true
    ∧ ∃ c, (visited (atGateFrame "creaked")).pump = some (c, .event []) ∧ c.unmatched = [] := by
  have hunclaimed := unclaimed_atGate (by decide : '/' ∉ "creaked".toList)
  have hconsistent : (visited (atGateFrame "creaked")).Consistent :=
    (consistent_start {}).serve _
  exact ⟨hunclaimed, rfl, _, hunclaimed.pump_eq hconsistent rfl, rfl⟩

end Client

end DeviceTwin
