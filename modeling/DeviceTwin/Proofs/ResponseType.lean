/-
The types of responses, found in three ways.

Whoever answers a command has to give the response a type. A set of
acknowledgements is resolved, and a device responds, by exchanging the criterion
in the type of the command; a response that arrives in an envelope has its type
put together from the topic. The topic knows the name of the command, while the
text of the type does not say where its name begins, and every occurrence of the
criterion is exchanged, also one in the name.

So the three ways agree on the group and the criterion, and on the name exactly
if the criterion does not occur in it (`response_types_agree_iff`).
-/
import DeviceTwin.Proofs.Dispatcher.Emission
import DeviceTwin.Proofs.Envelope.Signal
import DeviceTwin.Proofs.Resolution

namespace DeviceTwin

-- =============================================================== the three ways

/-- The command with the type of its group and a name. -/
def Command.named (c : Command) (g : Group) (name : String) : Command :=
  { c with type := SignalType.ofParts g "commands" name }

variable {c : Command} {g : Group} {name : String}

theorem Signal.exists_forChannel_response (channel : Channel) (r : CommandResponse) :
    ∃ headers, (Signal.response r).forChannel channel = .response { r with headers } := by
  cases channel with
  | live => exact ⟨_, rfl⟩
  | twin | none => exact ⟨r.headers, rfl⟩

/-- What a device responds leaves with other headers at most. -/
theorem Emission.exists_signal_respond (c : Command) (status : Status) (value : Option Payload) :
    ∃ headers, (respond c status value).signal
      = .response { c.response status value with headers } := by
  obtain ⟨live, hlive⟩ := Signal.exists_forChannel_response .live (c.response status value)
  change ∃ headers, ((Signal.response (c.response status value)).forChannel .live).leaving = _
  rw [hlive, Signal.leaving]
  exact Signal.exists_forChannel_response _ _

/-- The topic of a response has the name in its type for an action. -/
theorem Envelope.action_response (r : CommandResponse) :
    (ofSignal (.response r)).topic.action = some (SignalType.shortName r.type) := rfl

theorem Envelope.action_named :
    (ofSignal (.command (c.named g name))).topic.action = some name :=
  congrArg some (SignalType.shortName_ofParts g name (by decide))

/-- A response in an envelope has the type that its topic says. -/
theorem Envelope.toSignal_of_status {e : Envelope} {status : Status}
    (hcriterion : e.topic.criterion = .commands) (haction : e.topic.action = some name)
    (hstatus : e.status = some status) :
    ∃ r, e.toSignal = .ok (.response r)
      ∧ r.type = SignalType.ofParts e.topic.group "responses" name := by
  refine ⟨⟨SignalType.ofParts e.topic.group "responses" name, e.topic.entity, e.path, status,
    e.value, e.signalHeaders⟩, ?_, rfl⟩
  simp only [toSignal, hcriterion, toCommand, require, haction, hstatus]
  rfl

/-- The response to a command has the criterion of responses, and the name of the
command exactly if the criterion of commands does not occur in it; otherwise it is
exchanged there as well. So it is for a set of acknowledgements that stands for the
response, and for what a device responds, in the type and in the topic. A response
in an envelope with the action of the command has the name of the command whatever
occurs in it. -/
theorem response_types_agree_iff (base : Command) (g : Group) (name : String) :
    let c := base.named g name
    let exchanged := SignalType.responseName name
    SignalType.response c.type = SignalType.ofParts g "responses" exchanged
    ∧ (exchanged = name ↔ ¬ ".commands".toList <:+: name.toList)
    ∧ (∀ (set : Acknowledgements) (r : CommandResponse), set.resolve (.command c) = .ok r →
        r.type = SignalType.ofParts g "responses" exchanged)
    ∧ (∀ (status : Status) (value : Option Payload),
        ∃ r, (∀ (d : Dispatcher) (now : Nat),
            d.respond now c status value = d.emitFrame now (d.encode (.response r)))
          ∧ r.type = SignalType.ofParts g "responses" exchanged
          ∧ (Envelope.ofSignal (.response r)).topic.group = g
          ∧ (Envelope.ofSignal (.response r)).topic.action = some exchanged)
    ∧ ∀ (e : Envelope) (status : Status), e.topic.criterion = .commands → e.topic.group = g →
        e.topic.action = (Envelope.ofSignal (.command c)).topic.action →
        e.status = some status →
        ∃ r, e.toSignal = .ok (.response r) ∧ r.type = SignalType.ofParts g "responses" name := by
  intro c exchanged
  have htype : SignalType.response c.type = SignalType.ofParts g "responses" exchanged :=
    SignalType.response_ofParts g name
  refine ⟨htype, SignalType.responseName_eq_self_iff, fun set r hresolve => ?_,
    fun status value => ?_, ?_⟩
  · exact Acknowledgements.type_of_resolve hresolve rfl
  · obtain ⟨headers, hsignal⟩ := Emission.exists_signal_respond c status value
    refine ⟨{ c.response status value with headers }, fun d now => ?_, htype, ?_, ?_⟩
    · rw [← hsignal]
      exact (Emission.respond c status value).start_eq d now
    · rw [Envelope.group_ofSignal]
      show (SignalType.group? (SignalType.response c.type)).getD .things = g
      rw [htype, SignalType.group?_ofParts]
      rfl
    · rw [Envelope.action_response]
      show some (SignalType.shortName (SignalType.response c.type)) = _
      rw [htype, SignalType.shortName_ofParts g exchanged (by decide)]
  · rintro e status hcriterion rfl haction hstatus
    rw [Envelope.action_named] at haction
    exact Envelope.toSignal_of_status hcriterion haction hstatus

/-- To undo commands is answered by having undone responses. -/
theorem undone_commands_are_renamed :
    SignalType.response "things.commands:undo.commands" = "things.responses:undo.responses"
    ∧ SignalType.response "things.commands:undo.commands" ≠ "things.responses:undo.commands" := by
  decide

end DeviceTwin
